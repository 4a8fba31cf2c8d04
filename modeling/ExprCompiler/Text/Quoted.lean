import ExprCompiler.Text.Printable

/-!
# Quoted texts

A text inside a message stands between quotes, with everything that would not show, or would end
the quotation early, written as an escape. The mark is the single quote, unless the text holds
single quotes and no double ones.
-/

namespace ExprCompiler

/-- The last `width` hexadecimal digits of a number, the most significant first. -/
def hexDigits : Nat → Nat → List Char
  | 0, _ => []
  | width + 1, n => hexDigits width (n / 16) ++ [Nat.digitChar (n % 16)]

/-- A character as it stands in a quotation: the mark and the backslash get a backslash, line feed,
carriage return and tab a letter, other unprintable characters their code point at the smallest of
three widths. -/
def escapeIn (mark c : Char) : List Char :=
  if c = mark || c = '\x5c' then ['\x5c', c]
  else if c = '\n' then ['\x5c', 'n']
  else if c = '\r' then ['\x5c', 'r']
  else if c = '\t' then ['\x5c', 't']
  else if isPrintable c then [c]
  else if c.toNat < 0x100 then '\x5c' :: 'x' :: hexDigits 2 c.toNat
  else if c.toNat < 0x10000 then '\x5c' :: 'u' :: hexDigits 4 c.toNat
  else '\x5c' :: 'U' :: hexDigits 8 c.toNat

/-- The mark that quotes a text with the fewest escapes; the single quote wins a tie at zero. -/
def quoteMark (text : List Char) : Char :=
  if text.contains '\x27' && !text.contains '\x22' then '\x22' else '\x27'

/-- A text between quotes, on one line and without unprintable characters. -/
def quoted (text : String) : String :=
  let mark := quoteMark text.toList
  .ofList (mark :: text.toList.flatMap (escapeIn mark) ++ [mark])

end ExprCompiler
