/-!
# Clipped texts

A text that must not take more than a number of bytes in the encoding UTF-8 is cut after them. Where
the cut goes through a character, the replacement character stands for what is left of it.
-/

namespace ExprCompiler

/-- The character that stands for what cannot be shown. -/
def replacementCharacter : Char := .ofNat 0xFFFD

/-- The start of a list of characters that takes at most `room` bytes. -/
def clip (room : Nat) : List Char → List Char
  | [] => []
  | c :: rest =>
    if c.utf8Size ≤ room then c :: clip (room - c.utf8Size) rest
    else if room = 0 then []
    else [replacementCharacter]

/-- The start of a text that takes at most `room` bytes. -/
def clipped (room : Nat) (text : String) : String :=
  .ofList (clip room text.toList)

end ExprCompiler
