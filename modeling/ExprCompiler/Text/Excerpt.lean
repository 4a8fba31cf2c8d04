/-!
# Excerpts

A message about one place in a text shows a stretch of the text around that place and, on a line of
its own, a caret below the place. What is left out at either end is marked by an ellipsis.

Places are integers: a caller may point outside of the text, and the window is then cut off at the
text's ends. A window that ends before the text begins is measured from the end of the text.
-/

namespace ExprCompiler

/-- The mark for text that was left out. -/
def ellipsis : String := "..."

/-- A stretch of a text with a caret below it. -/
structure Excerpt where
  /-- The stretch of text, with an ellipsis at each end where text was left out. -/
  line : String
  /-- The column of the caret, counted from zero. -/
  column : Nat

namespace Excerpt

/-- The characters from index `first` up to, but without, index `stop`; a negative `stop` counts
from the end. -/
def cut (text : List Char) (first : Nat) (stop : Int) : List Char :=
  let stop := if stop < 0 then stop + text.length else stop
  (text.take stop.toNat).drop first

/-- The excerpt around `place` with `reach` characters before it and, from `place` on, as many. -/
def around (text : String) (place : Int) (reach : Int := 10) : Excerpt :=
  let chars := text.toList
  let first := (place - reach).toNat
  let stop := min (chars.length : Int) (place + reach)
  let before := if 0 < first then ellipsis else ""
  let after := if stop < chars.length then ellipsis else ""
  { line := before ++ .ofList (cut chars first stop) ++ after
    column := (place - first + before.length).toNat }

/-- The line that holds nothing but the caret. -/
def caretLine (excerpt : Excerpt) : String :=
  .ofList (List.replicate excerpt.column ' ' ++ ['^'])

/-- Both lines as they follow a message. -/
def lines (excerpt : Excerpt) : List String :=
  [excerpt.line, excerpt.caretLine]

end Excerpt

end ExprCompiler
