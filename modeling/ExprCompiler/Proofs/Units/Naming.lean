import ExprCompiler.Proofs.Units.Writing
import ExprCompiler.Units.NameSupply

/-!
# Names that are counted

A name of a supply is the supply's stem and a decimal numeral. The numeral tells the names of a supply
apart, and it is nothing to the shape of an identifier, which digits may continue but not begin: a
unit can be made under such a name exactly if the stem is an identifier.
-/

namespace ExprCompiler

section Digits

variable {c : Char} (h : c.isDigit = true)

include h

theorem identifierContinue_of_isDigit : identifierContinue.has c = true := by
  have hle : 0x30 ≤ c.toNat ∧ c.toNat ≤ 0x39 := Char.isDigit_iff_toNat.1 h
  -- The digits are the first range of the set.
  show CodeSet.contains c.toNat false (0x30 :: 0x3A :: _) = true
  rw [CodeSet.contains, if_neg (by omega), CodeSet.contains, if_pos (by omega)]
  rfl

theorem identifierStart_of_isDigit : identifierStart.has c = false := by
  have hle : 0x30 ≤ c.toNat ∧ c.toNat ≤ 0x39 := Char.isDigit_iff_toNat.1 h
  show CodeSet.contains c.toNat false (0x41 :: _) = false
  rw [CodeSet.contains, if_pos (by omega)]

end Digits

/-- Digits behind a text leave it an identifier, and make none of it. -/
theorem isIdentifierShape_append_digits (text : List Char) {digits : List Char}
    (hdigits : ∀ c ∈ digits, c.isDigit = true) :
    isIdentifierShape (text ++ digits) = isIdentifierShape text := by
  cases text with
  | nil =>
    cases digits with
    | nil => rfl
    | cons c rest =>
      have hstart := identifierStart_of_isDigit (hdigits c List.mem_cons_self)
      show (identifierStart.has c && _) = false
      rw [hstart, Bool.false_and]
  | cons c rest =>
    have hcontinue : digits.all identifierContinue.has = true :=
      List.all_eq_true.2 fun d hd => identifierContinue_of_isDigit (hdigits d hd)
    show (identifierStart.has c && (rest ++ digits).all _) = (identifierStart.has c && rest.all _)
    rw [List.all_append, hcontinue, Bool.and_true]

namespace NameSupply

variable (supply : NameSupply) {m n : Nat}

theorem nameAt_inj : supply.nameAt m = supply.nameAt n ↔ m = n := by
  constructor
  · intro h
    have hnumeral : m.repr = n.repr := (String.append_right_inj supply.stem).1 h
    have hdigits : Nat.toDigits 10 m = Nat.toDigits 10 n := by
      rw [← Nat.toList_repr, hnumeral, Nat.toList_repr]
    rw [← @Nat.ofDigitChars_ten_toDigits m, hdigits, Nat.ofDigitChars_ten_toDigits]
  · rintro rfl
    rfl

theorem isIdentifier_nameAt (n : Nat) : isIdentifier (supply.nameAt n) = isIdentifier supply.stem := by
  have hdigits : ∀ c ∈ (toString n).toList, c.isDigit = true := by
    intro c hc
    rw [Nat.toString_eq_repr, Nat.toList_repr] at hc
    exact Nat.isDigit_of_mem_toDigits (by decide) (by decide) hc
  rw [isIdentifier, nameAt, String.toList_append, isIdentifierShape_append_digits _ hdigits]
  rfl

/-- A unit can be made under a name of the supply exactly if the stem is an identifier. -/
theorem exists_unitSource_nameAt (n : Nat) (artifact : String) :
    (∃ source, unitSource (supply.nameAt n) artifact = .ok source) ↔
      isIdentifier supply.stem = true := by
  rw [← supply.isIdentifier_nameAt n]
  constructor
  · rintro ⟨source, hsource⟩
    cases hname : isIdentifier (supply.nameAt n) with
    | true => rfl
    | false =>
      rw [unitSource_eq_error hname] at hsource
      simp at hsource
  · intro hname
    exact unitSource_eq_ok hname artifact

end NameSupply

end ExprCompiler
