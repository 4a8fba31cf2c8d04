import ExprCompiler.Text.Digit

/-!
# Tables of characters and texts

A mapping that takes thousands of characters to short texts is written down as blocks. A block
starts at a code point and has one word for it and one for each of the code points that follow; a
word lists the characters of a text, in hexadecimal and with points between them, and a word that is
a dash skips a code point.
-/

namespace ExprCompiler

/-- The value of a hexadecimal digit, whose letters are capitals. -/
def hexDigitValue (c : Char) : Nat :=
  if c.isDigit then c.toNat - '0'.toNat else c.toNat - 'A'.toNat + 10

/-- The character whose code point is written in hexadecimal. -/
def charOfHex (digits : String) : Char :=
  .ofNat (digits.toList.foldl (fun n digit => 16 * n + hexDigitValue digit) 0)

/-- The entries of consecutive code points, from the words of a block. -/
def blockEntries (point : Nat) : List String → List (Char × List Char)
  | [] => []
  | word :: words =>
    if word = "-" then blockEntries (point + 1) words
    else (.ofNat point, (word.splitOn ".").map charOfHex) :: blockEntries (point + 1) words

/-- Characters and the texts that they are mapped to. -/
structure CodeTable where
  /-- Each character with its text. -/
  entries : List (Char × List Char)

namespace CodeTable

/-- The table with certain blocks, each of them a code point and the words from there on. -/
def ofBlocks (blocks : List (Nat × String)) : CodeTable where
  entries := blocks.flatMap fun (point, words) => blockEntries point (words.splitOn " ")

/-- The text that a character is mapped to. -/
def text? (table : CodeTable) (c : Char) : Option (List Char) :=
  table.entries.lookup c

/-- The first character that is mapped to a text. -/
def char? (table : CodeTable) (text : List Char) : Option Char :=
  (table.entries.find? (·.2 == text)).map (·.1)

end CodeTable

end ExprCompiler
