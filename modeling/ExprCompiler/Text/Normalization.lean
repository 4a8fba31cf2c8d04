import ExprCompiler.Text.CombiningClass
import ExprCompiler.Text.Composite
import ExprCompiler.Text.PlainForm

/-!
# Normal forms

Two spellings of a word are taken for the same if they have one normal form. To get it, every
variant is replaced by its plain form and every composite by its parts, the marks that follow a
letter are put in the order of their classes, and what can be composed is composed again. The rule
is meant for words that are identifiers, and its tables hold what such words can hold.
-/

namespace ExprCompiler

/-- How often the first part of a composite may be a composite or a variant again. -/
def maxLayers : Nat := 4

/-- The parts of a character, where at most `layers` composites lie within each other. -/
def decomposeWithin : Nat → Char → List Char
  | 0, c => [c]
  | layers + 1, c =>
    match Hangul.parts? c, plainForms.text? c, composites.text? c with
    | some parts, _, _ => parts
    | none, some plain, _ => plain
    | none, none, some (first :: second) => decomposeWithin layers first ++ second
    | none, none, _ => [c]

/-- The parts of a character. -/
def decompose (c : Char) : List Char :=
  decomposeWithin maxLayers c

/-- Puts a character before others. A mark goes behind those marks at the front that are of lower
classes. -/
def insertMark (c : Char) : List Char → List Char
  | [] => [c]
  | d :: rest =>
    if combiningClass d ≠ 0 ∧ combiningClass d < combiningClass c then d :: insertMark c rest
    else c :: d :: rest

/-- A text with the marks after every letter in ascending order of their classes. -/
def orderMarks (text : List Char) : List Char :=
  text.foldr insertMark []

/-- Composes a text that starts with a letter and the marks after it that the letter did not take.
The letter takes a character if they make up a composite and no mark in between is of the same class
or a higher one. -/
def composeFrom (letter : Char) (marks : List Char) : List Char → List Char
  | [] => letter :: marks
  | c :: rest =>
    let reachable := marks.all fun mark => combiningClass mark < combiningClass c
    match if reachable then composite? letter c else none with
    | some composite => composeFrom composite marks rest
    | none =>
      if combiningClass c = 0 then letter :: marks ++ composeFrom c [] rest
      else composeFrom letter (marks ++ [c]) rest

/-- A text with all that can be composed as composites. -/
def compose : List Char → List Char
  | [] => []
  | c :: rest => composeFrom c [] rest

/-- The normal form of an identifier. -/
def normalForm (word : String) : String :=
  .ofList (compose (orderMarks (word.toList.flatMap decompose)))

end ExprCompiler
