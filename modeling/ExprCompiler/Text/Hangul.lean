/-!
# Hangul syllables

A syllable of the Korean script is a leading consonant, a vowel and perhaps a trailing consonant.
The characters of all syllables stand in the order of their parts, so a syllable is taken apart and
put together by arithmetic.
-/

namespace ExprCompiler.Hangul

/-- The code point of the first syllable. -/
def firstSyllable : Nat := 0xAC00

/-- The code point of the first leading consonant. -/
def firstLeading : Nat := 0x1100

/-- The code point of the first vowel. -/
def firstVowel : Nat := 0x1161

/-- The code point before the first trailing consonant, which stands for none at all. -/
def noTrailing : Nat := 0x11A7

/-- The number of leading consonants. -/
def leadingCount : Nat := 19

/-- The number of vowels. -/
def vowelCount : Nat := 21

/-- The number of ways in which a syllable may end. -/
def trailingCount : Nat := 28

/-- The number of syllables. -/
def syllableCount : Nat := leadingCount * vowelCount * trailingCount

/-- The place of a character in a row of `count` that starts at the code point `first`. -/
def indexIn? (first count : Nat) (c : Char) : Option Nat :=
  if first ≤ c.toNat ∧ c.toNat < first + count then some (c.toNat - first) else none

/-- The parts of a syllable. -/
def parts? (c : Char) : Option (List Char) :=
  (indexIn? firstSyllable syllableCount c).map fun index =>
    let leading := firstLeading + index / (vowelCount * trailingCount)
    let vowel := firstVowel + index % (vowelCount * trailingCount) / trailingCount
    let trailing := index % trailingCount
    .ofNat leading :: .ofNat vowel :: if trailing = 0 then [] else [.ofNat (noTrailing + trailing)]

/-- The syllable of a leading consonant and a vowel. -/
def joinVowel? (c d : Char) : Option Char := do
  let leading ← indexIn? firstLeading leadingCount c
  let vowel ← indexIn? firstVowel vowelCount d
  return .ofNat (firstSyllable + (leading * vowelCount + vowel) * trailingCount)

/-- The syllable of one that ends in its vowel and a trailing consonant. -/
def joinTrailing? (c d : Char) : Option Char := do
  let index ← indexIn? firstSyllable syllableCount c
  let trailing ← indexIn? noTrailing trailingCount d
  if index % trailingCount = 0 ∧ 0 < trailing then
    return .ofNat (firstSyllable + index + trailing)
  else none

/-- The syllable that two characters make up together. -/
def join? (c d : Char) : Option Char :=
  joinVowel? c d <|> joinTrailing? c d

end ExprCompiler.Hangul
