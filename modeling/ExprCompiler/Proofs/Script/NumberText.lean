import ExprCompiler.Proofs.Expr.Readable
import ExprCompiler.Script.Literal
import Mathlib.Data.List.TakeWhile

/-!
# The value of a literal

The text of a literal is digits with one point at most. As such a text, and as the number of a script
that it becomes when it gets a point, it stands for the same double (`IsNumberText.exists_float`).
-/

namespace ExprCompiler

/-! ## Digits -/

/-- A character that may stand in a number is none that means something else in a numeral. -/
theorem ne_of_isInNumber {c : Char} (h : isInNumber c = true) :
    c ≠ '_' ∧ c ≠ '-' ∧ c ≠ '+' ∧ c ≠ 'e' ∧ c ≠ 'E' := by
  refine ⟨?_, ?_, ?_, ?_, ?_⟩ <;> (rintro rfl; revert h; decide)

/-- There are ten digits. -/
theorem exists_of_isDigit {c : Char} (h : c.isDigit = true) :
    ∃ n : Fin 10, c = Char.ofNat (48 + n) := by
  simp only [Char.isDigit, Bool.and_eq_true, decide_eq_true_eq, ge_iff_le,
    UInt32.le_iff_toNat_le] at h
  have hge : 48 ≤ c.toNat := h.1
  have hle : c.toNat ≤ 57 := h.2
  refine ⟨⟨c.toNat - 48, by omega⟩, ?_⟩
  rw [Nat.add_sub_cancel' hge, Char.ofNat_toNat]

theorem isDigit_toLower {c : Char} (h : c.isDigit = true) : c.toLower.isDigit = true := by
  have hall : ∀ n : Fin 10, (Char.ofNat (48 + n)).toLower.isDigit = true := by decide
  obtain ⟨n, rfl⟩ := exists_of_isDigit h
  exact hall n

theorem plainDigit_of_isInNumber {c : Char} (h : isInNumber c = true) : plainDigit c = c := by
  rcases isInNumber_iff.1 h with hdigit | rfl
  · have hall : ∀ n : Fin 10, plainDigit (Char.ofNat (48 + n)) = Char.ofNat (48 + n) := by decide
    obtain ⟨n, rfl⟩ := exists_of_isDigit hdigit
    exact hall n
  · decide

/-- A digit or a point after a zero tells no radix. -/
theorem Script.toldRadix?_eq_none {chars : List Char} (h : ∀ c ∈ chars, isInNumber c = true) :
    toldRadix? chars = none := by
  unfold toldRadix?
  split
  · rename_i letter rest
    rcases isInNumber_iff.1 (h letter (by simp)) with hdigit | rfl
    · have hall : ∀ n : Fin 10, radixOfLetter? (Char.ofNat (48 + n)) = none := by decide
      obtain ⟨n, rfl⟩ := exists_of_isDigit hdigit
      exact hall n
    · decide
  · rfl

theorem dropWhile_eq_self {p : Char → Bool} {chars : List Char} (h : ∀ c ∈ chars, p c = false) :
    chars.dropWhile p = chars := by
  cases chars with
  | nil => rfl
  | cons c rest => rw [List.dropWhile_cons_of_neg (by simp [h c List.mem_cons_self])]

theorem digitsValue_append (digits : List Char) (c : Char) :
    digitsValue (digits ++ [c]) = 10 * digitsValue digits + (c.toNat - '0'.toNat) := by
  rw [digitsValue, List.foldl_append]
  rfl

/-! ## Numerals -/

theorem dropUnderscores?_eq {chars : List Char} (h : ∀ c ∈ chars, c ≠ '_') :
    dropUnderscores? chars = some chars := by
  suffices hgo : ∀ afterDigit, dropUnderscores?.go afterDigit chars = some chars from hgo false
  induction chars with
  | nil =>
    intro afterDigit
    rfl
  | cons c rest ih =>
    intro afterDigit
    rw [dropUnderscores?.go, if_neg (h c List.mem_cons_self),
      ih (fun d hd => h d (List.mem_cons_of_mem c hd))]
    rfl

section Numerals

variable {whole fraction : List Char}

theorem ofPlainNumeral?_whole (hne : whole ≠ []) (hwhole : ∀ c ∈ whole, c.isDigit = true) :
    Decimal.ofPlainNumeral? whole = some (.normalized (digitsValue whole) 0) := by
  have htake : whole.takeWhile Char.isDigit = whole := List.takeWhile_eq_self_iff.2 hwhole
  have hdrop : whole.dropWhile Char.isDigit = [] := List.dropWhile_eq_nil_iff.2 hwhole
  simp [Decimal.ofPlainNumeral?, htake, hdrop, hne]

theorem ofPlainNumeral?_point (hne : whole ≠ []) (hwhole : ∀ c ∈ whole, c.isDigit = true)
    (hfraction : ∀ c ∈ fraction, c.isDigit = true) :
    Decimal.ofPlainNumeral? (whole ++ '.' :: fraction) =
      some (.normalized (digitsValue (whole ++ fraction)) (0 - fraction.length)) := by
  have hstop : ∀ c, ('.' :: fraction).head? = some c → c.isDigit = false := by
    intro c hc
    obtain rfl := Option.some.inj hc
    decide
  have htake : fraction.takeWhile Char.isDigit = fraction := List.takeWhile_eq_self_iff.2 hfraction
  have hdrop : fraction.dropWhile Char.isDigit = [] := List.dropWhile_eq_nil_iff.2 hfraction
  simp [Decimal.ofPlainNumeral?, takeWhile_run hwhole hstop, dropWhile_run hwhole hstop, htake,
    hdrop, hne]

end Numerals

/-! ## Texts of literals -/

namespace IsNumberText

variable {text : String}

theorem forall_isInNumber (h : IsNumberText text) : ∀ c ∈ text.toList, isInNumber c = true :=
  fun c hc => isInNumber_iff.2 (h.characters c hc)

/-- A literal is digits, or digits with a point after the first of them. -/
theorem exists_digits (h : IsNumberText text) :
    ∃ whole : List Char, whole ≠ [] ∧ (∀ c ∈ whole, c.isDigit = true) ∧
      (text.toList = whole ∨
        ∃ fraction, (∀ c ∈ fraction, c.isDigit = true) ∧ text.toList = whole ++ '.' :: fraction) := by
  obtain ⟨⟨first, hhead, hfirst⟩, hcharacters, hpoints⟩ := h
  obtain ⟨whole, rest, htext, hwhole, hrest⟩ := exists_run Char.isDigit text.toList
  have hne : whole ≠ [] := by
    rintro rfl
    rw [List.nil_append] at htext
    rw [htext] at hhead
    have hfalse := hrest first hhead
    rw [hfirst] at hfalse
    exact Bool.noConfusion hfalse
  refine ⟨whole, hne, hwhole, ?_⟩
  rw [htext] at hcharacters hpoints ⊢
  cases rest with
  | nil => exact .inl (List.append_nil whole)
  | cons c fraction =>
    have hdigit : c.isDigit = false := hrest c rfl
    have hpoint : c = '.' := by
      rcases hcharacters c (by simp) with htrue | hpoint
      · rw [hdigit] at htrue
        exact Bool.noConfusion htrue
      · exact hpoint
    subst hpoint
    refine .inr ⟨fraction, ?_, rfl⟩
    intro d hd
    rcases hcharacters d (by simp [hd]) with htrue | rfl
    · exact htrue
    · have hpos : 0 < fraction.count '.' := List.count_pos_iff.2 hd
      rw [List.count_append, List.count_cons_self] at hpoints
      omega

/-- A point and a zero more do not change the decimal that a literal stands for. -/
theorem exists_decimal (h : IsNumberText text) :
    ∃ d, Decimal.ofPlainNumeral? text.toList = some d ∧
      Decimal.ofPlainNumeral? (pointedText text).toList = some d := by
  obtain ⟨whole, hne, hwhole, htext | ⟨fraction, hfraction, htext⟩⟩ := h.exists_digits
  · have hnone : '.' ∉ text.toList := by
      intro hmem
      have hfalse := hwhole '.' (htext ▸ hmem)
      exact absurd hfalse (by decide)
    have hzero : ∀ c ∈ ['0'], c.isDigit = true := List.forall_mem_singleton.2 rfl
    have hpointed : (pointedText text).toList = whole ++ '.' :: ['0'] := by
      rw [pointedText, if_neg hnone, String.toList_append, htext]
      rfl
    have hvalue : digitsValue (whole ++ ['0']) = digitsValue whole * 10 := by
      rw [digitsValue_append, Nat.sub_self, Nat.add_zero, Nat.mul_comm]
    have hlength : ((['0'] : List Char).length : Int) = 1 := rfl
    refine ⟨.normalized (digitsValue whole) 0, ?_, ?_⟩
    · rw [htext, ofPlainNumeral?_whole hne hwhole]
    · rw [hpointed, ofPlainNumeral?_point hne hwhole hzero, hvalue, hlength,
        Decimal.normalized_mul_ten]
  · have hsome : '.' ∈ text.toList := by simp [htext]
    rw [pointedText, if_pos hsome, htext]
    exact ⟨_, ofPlainNumeral?_point hne hwhole hfraction, ofPlainNumeral?_point hne hwhole hfraction⟩

theorem trimPadding_eq (h : IsNumberText text) : trimPadding text.toList = text.toList := by
  have hpadding : ∀ c ∈ text.toList, isNumeralPadding c = false := by
    intro c hc
    rw [isNumeralPadding, isBlank_of_isInNumber (h.forall_isInNumber c hc), Bool.false_and]
  have hreverse : ∀ c ∈ text.toList.reverse, isNumeralPadding c = false :=
    fun c hc => hpadding c (List.mem_reverse.1 hc)
  rw [trimPadding, dropWhile_eq_self hpadding, dropWhile_eq_self hreverse, List.reverse_reverse]

theorem map_plainDigit (h : IsNumberText text) : text.toList.map plainDigit = text.toList := by
  have hmap : text.toList.map plainDigit = text.toList.map id :=
    List.map_congr_left fun c hc => plainDigit_of_isInNumber (h.forall_isInNumber c hc)
  rw [hmap, List.map_id]

/-- A literal is no name of an infinity or of no number. -/
theorem readMagnitude?_eq (h : IsNumberText text) :
    readMagnitude? text.toList = (Decimal.ofPlainNumeral? text.toList).map Decimal.toFloat := by
  have hword : ∀ c rest, c.isDigit = false →
      String.ofList (text.toList.map Char.toLower) ≠ .ofList (c :: rest) := by
    intro c rest hdigit heq
    obtain ⟨first, run, htext, hfirst, -⟩ := h.toList_eq_cons
    rw [String.ofList_inj, htext, List.map_cons] at heq
    have hlower := isDigit_toLower hfirst
    rw [(List.cons.inj heq).1, hdigit] at hlower
    exact Bool.noConfusion hlower
  have hplain : ∀ c ∈ text.toList, c ≠ '_' :=
    fun c hc => (ne_of_isInNumber (h.forall_isInNumber c hc)).1
  have hinf := hword 'i' ['n', 'f'] (by decide)
  have hinfinity := hword 'i' ['n', 'f', 'i', 'n', 'i', 't', 'y'] (by decide)
  have hnan := hword 'n' ['a', 'n'] (by decide)
  unfold readMagnitude?
  rw [if_neg, if_neg, Decimal.ofNumeral?, dropUnderscores?_eq hplain]
  · rfl
  · exact hnan
  · simp only [Bool.or_eq_true, decide_eq_true_eq, not_or]
    exact ⟨hinf, hinfinity⟩

/-- A literal stands for a double, and with a point it does so in a script too. -/
theorem exists_float (h : IsNumberText text) :
    ∃ x, readFloat? text = some x ∧
      Script.readNumber? (pointedText text).toList = some (.float x) := by
  obtain ⟨d, hplain, hpointed⟩ := h.exists_decimal
  have hmagnitude := h.readMagnitude?_eq
  rw [hplain] at hmagnitude
  refine ⟨d.toFloat, ?_, ?_⟩
  · obtain ⟨first, run, htext, hfirst, -⟩ := h.toList_eq_cons
    obtain ⟨-, hminus, hplus, -⟩ := ne_of_isInNumber (isInNumber_iff.2 (.inl hfirst))
    rw [readFloat?, h.trimPadding_eq, h.map_plainDigit]
    rw [htext] at hmagnitude ⊢
    split
    · rename_i heq
      exact absurd (List.cons.inj heq).1 hminus
    · rename_i heq
      exact absurd (List.cons.inj heq).1 hplus
    · exact hmagnitude
  · have hno : ∀ c ∈ (pointedText text).toList, c ≠ '_' :=
      fun c hc => (ne_of_isInNumber (h.pointed.forall_isInNumber c hc)).1
    have hnotAll : (pointedText text).toList.all Char.isDigit = false := by
      rw [List.all_eq_false]
      exact ⟨'.', point_mem_pointedText text, by decide⟩
    have hradix := Script.toldRadix?_eq_none h.pointed.forall_isInNumber
    simp only [Script.readNumber?, hradix, dropUnderscores?_eq hno, Option.bind_eq_bind,
      Option.bind_some, hnotAll, hpointed]
    rfl

end IsNumberText

end ExprCompiler
