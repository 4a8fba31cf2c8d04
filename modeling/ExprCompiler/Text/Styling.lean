/-!
# Terminal styling

Text that is echoed to something other than a terminal loses its styling sequences: an escape
character and an opening square bracket, then any number of parameter characters, then one letter.
An escape character that starts no such sequence stays.
-/

namespace ExprCompiler

/-- The characters that may stand between the bracket and the letter of a styling sequence. -/
def isStylingParameter (c : Char) : Bool :=
  c = ';' || c = '?' || c.isDigit

/-- What follows the styling sequence that a text starts with. -/
def afterStyling? : List Char → Option (List Char)
  | '\x1b' :: '[' :: rest =>
    match rest.dropWhile isStylingParameter with
    | letter :: rest => if letter.isAlpha then some rest else none
    | [] => none
  | _ => none

/-- What follows a styling sequence is shorter than the text that starts with it. -/
theorem length_lt_of_afterStyling? {text rest : List Char} (h : afterStyling? text = some rest) :
    rest.length < text.length := by
  unfold afterStyling? at h
  split at h
  · rename_i params
    split at h
    · rename_i letter tail hdrop
      split at h
      · have hle := (List.dropWhile_suffix (l := params) isStylingParameter).length_le
        simp only [hdrop, List.length_cons] at hle
        simp only [Option.some.injEq] at h
        subst h
        simp only [List.length_cons]
        omega
      · simp at h
    · simp at h
  · simp at h

/-- A list of characters without its styling sequences. -/
def dropStyling (text : List Char) : List Char :=
  match _h : afterStyling? text with
  | some rest => dropStyling rest
  | none =>
    match text with
    | [] => []
    | c :: rest => c :: dropStyling rest
termination_by text.length
decreasing_by
  · exact length_lt_of_afterStyling? _h
  · simp

/-- A text without its styling sequences. -/
def withoutStyling (text : String) : String :=
  .ofList (dropStyling text.toList)

end ExprCompiler
