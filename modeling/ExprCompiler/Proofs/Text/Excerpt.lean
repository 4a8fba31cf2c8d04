import ExprCompiler.Text.Excerpt

/-!
# Where the caret of an excerpt stands

The excerpt around a place shows a window of the text, between marks for what was left out. The
character at the place is the one in the column of the caret, and at the end of the text the excerpt
ends in that column (`marks_around`, `lines_around`). This counts the characters of the excerpt,
whatever they are: a line feed in the window makes the caret stand below a part of it only.
-/

namespace ExprCompiler.Excerpt

/-- The characters from `reach` before a place up to, but without, `reach` behind it. -/
def window (text : List Char) (place reach : Nat) : List Char :=
  (text.take (place + reach)).drop (place - reach)

/-- What stands before the window. -/
def opening (place reach : Nat) : String :=
  if reach < place then ellipsis else ""

/-- What stands behind the window of a text of some length. -/
def closing (length place reach : Nat) : String :=
  if place + reach < length then ellipsis else ""

/-- The characters at the indices with a property, in their order. -/
def charactersAt (chars : List Char) (P : Nat → Prop) [DecidablePred P] : List Char :=
  (chars.zipIdx.filter fun c => P c.2).map Prod.fst

/-- The mark is an ellipsis if characters were left out, and else it is empty. -/
def Tells (mark : String) (leftOut : Prop) : Prop :=
  mark = ellipsis ∧ leftOut ∨ mark = "" ∧ ¬ leftOut

/-- The character stands in the column, and if there is none, the characters end there. -/
def Marks (chars : List Char) (column : Nat) : Option Char → Prop
  | some c => chars[column]? = some c
  | none => chars.length = column

section Around

variable (text : String) (place reach : Nat)

theorem cut_eq_window (chars : List Char) :
    cut chars ((place - reach : Int).toNat) (min (chars.length : Int) (place + reach)) =
      window chars place reach := by
  have hfirst : (place - reach : Int).toNat = place - reach := by omega
  have hstop : (min (chars.length : Int) (place + reach)).toNat =
      min (place + reach) chars.length := by omega
  have hpos : ¬ min (chars.length : Int) (place + reach) < 0 := by omega
  simp only [cut, window]
  rw [if_neg hpos, hfirst, hstop, ← List.take_take, List.take_length]

theorem toList_line_around :
    (around text place reach).line.toList = (opening place reach).toList ++
      (window text.toList place reach ++ (closing text.toList.length place reach).toList) := by
  have hbefore : 0 < (place - reach : Int).toNat ↔ reach < place := by omega
  have hafter : min (text.toList.length : Int) (place + reach) < text.toList.length ↔
      place + reach < text.toList.length := by omega
  simp only [around, cut_eq_window, hbefore, hafter, String.toList_append, String.toList_ofList,
    List.append_assoc, opening, closing]

theorem column_around :
    (around text place reach).column =
      (opening place reach).length + (place - (place - reach)) := by
  have hbefore : 0 < (place - reach : Int).toNat ↔ reach < place := by omega
  simp only [around, hbefore, opening]
  omega

variable {text place reach}

/-- The caret marks the character at its place. -/
theorem marks_around (hplace : place ≤ text.toList.length) (hreach : 0 < reach) :
    Marks (around text place reach).line.toList (around text place reach).column
      text.toList[place]? := by
  have hwindow : (window text.toList place reach)[place - (place - reach)]? =
      text.toList[place]? := by
    rw [window, List.getElem?_drop, List.getElem?_take_of_lt (by omega)]
    congr 1
    omega
  rw [toList_line_around, column_around, ← String.length_toList]
  cases hchar : text.toList[place]? with
  | some c =>
    rw [hchar] at hwindow
    rw [Marks, List.getElem?_append_right (Nat.le_add_right _ _), Nat.add_sub_cancel_left]
    rw [List.getElem?_append_left (List.getElem?_eq_some_iff.1 hwindow).1]
    exact hwindow
  | none =>
    have hlength : text.toList.length ≤ place := List.getElem?_eq_none_iff.1 hchar
    have hclosing : closing text.toList.length place reach = "" := if_neg (by omega)
    rw [Marks, hclosing, List.length_append, List.length_append, window, List.length_drop,
      List.length_take]
    simp only [String.toList_empty, List.length_nil]
    omega

theorem exists_getElem?_of_mem_window {chars : List Char} {c : Char}
    (h : c ∈ window chars place reach) :
    ∃ i, place ≤ i + reach ∧ i < place + reach ∧ chars[i]? = some c := by
  obtain ⟨i, hi⟩ := List.getElem?_of_mem h
  rw [window, List.getElem?_drop] at hi
  have hlt : place - reach + i < place + reach := by
    have htake := (List.getElem?_eq_some_iff.1 hi).1
    rw [List.length_take] at htake
    omega
  rw [List.getElem?_take_of_lt hlt] at hi
  exact ⟨place - reach + i, by omega, hlt, hi⟩

/-- Nothing is added to the window but ellipses. -/
theorem not_mem_line_around {c : Char} (hellipsis : c ∉ ellipsis.toList)
    (hwindow : c ∉ window text.toList place reach) :
    c ∉ (around text place reach).line.toList := by
  have hopening : c ∉ (opening place reach).toList := by
    unfold opening
    split
    · exact hellipsis
    · simp
  have hclosing : c ∉ (closing text.toList.length place reach).toList := by
    unfold closing
    split
    · exact hellipsis
    · simp
  rw [toList_line_around]
  simp [hopening, hwindow, hclosing]

end Around

/-! ## The window as a set of indices -/

section Window

variable (place reach : Nat)

/-- What is behind the first characters, up to some index, are the characters at the indices in
between; the indices are counted from `index`. -/
theorem map_fst_filter_zipIdx (chars : List Char) (first stop index : Nat) :
    ((chars.zipIdx index).filter fun c => first ≤ c.2 ∧ c.2 < stop).map Prod.fst =
      (chars.take (stop - index)).drop (first - index) := by
  induction chars generalizing index with
  | nil => simp
  | cons c rest ih =>
    rw [List.zipIdx_cons, List.filter_cons]
    by_cases hstop : index < stop
    · have htake : stop - index = stop - (index + 1) + 1 := by omega
      rw [htake, List.take_succ_cons]
      by_cases hfirst : first ≤ index
      · have hdrop : first - index = 0 := by omega
        have hdrop' : first - (index + 1) = 0 := by omega
        rw [if_pos (by simpa using ⟨hfirst, hstop⟩), List.map_cons, ih, hdrop, hdrop']
        rfl
      · have hdrop : first - index = first - (index + 1) + 1 := by omega
        rw [if_neg (by simpa using fun h => absurd h hfirst), ih, hdrop, List.drop_succ_cons]
    · have htake : stop - index = 0 := by omega
      have htake' : stop - (index + 1) = 0 := by omega
      rw [if_neg (by simpa using fun _ => Nat.le_of_not_lt hstop), ih, htake, htake']
      simp

theorem charactersAt_eq (chars : List Char) (stop : Nat) :
    charactersAt chars (fun j => (place - reach : Int) ≤ j ∧ (j : Int) < stop) =
      (chars.take stop).drop (place - reach) := by
  have hfilter := map_fst_filter_zipIdx chars (place - reach) stop 0
  rw [Nat.sub_zero, Nat.sub_zero] at hfilter
  have hindices : ∀ j : Nat, ((place - reach : Int) ≤ j ∧ (j : Int) < stop) ↔
      (place - reach ≤ j ∧ j < stop) := by
    intro j
    omega
  rw [charactersAt, ← hfilter]
  simp only [hindices]

/-- The opening mark stands for the indices before the window. -/
theorem tells_opening {length : Nat} (hle : place ≤ length) :
    Tells (opening place reach) (∃ j : Nat, j < length ∧ (j : Int) < place - reach) := by
  unfold opening
  by_cases hbefore : reach < place
  · rw [if_pos hbefore]
    exact .inl ⟨rfl, 0, by omega, by omega⟩
  · rw [if_neg hbefore]
    refine .inr ⟨rfl, ?_⟩
    rintro ⟨j, -, hj⟩
    omega

/-- The closing mark stands for the indices behind the window. -/
theorem tells_closing (length : Nat) :
    Tells (closing length place reach) (∃ j : Nat, j < length ∧ (place + reach : Int) ≤ j) := by
  unfold closing
  by_cases hafter : place + reach < length
  · rw [if_pos hafter]
    exact .inl ⟨rfl, place + reach, hafter, by omega⟩
  · rw [if_neg hafter]
    refine .inr ⟨rfl, ?_⟩
    rintro ⟨j, hj, hj'⟩
    omega

end Window

/-- The excerpt around a place of a text, or around its end, shows the characters at the indices that
are at most `reach` before the place or less than `reach` behind it, with an ellipsis at each end
where characters of the text were left out. The caret stands behind as many blanks as there are
characters before the place, below the character there or behind the last one. -/
theorem lines_around {text : String} {place reach : Int} (hplace : 0 ≤ place)
    (hle : place ≤ text.length) (hreach : 1 ≤ reach) :
    ∃ before line after column,
      (around text place reach).lines = [line, .ofList (List.replicate column ' ' ++ ['^'])] ∧
      line = before ++ .ofList (charactersAt text.toList fun j =>
        place - reach ≤ j ∧ j < place + reach) ++ after ∧
      Tells before (∃ j : Nat, j < text.length ∧ j < place - reach) ∧
      Tells after (∃ j : Nat, j < text.length ∧ place + reach ≤ j) ∧
      column = before.length +
        (charactersAt text.toList fun j => place - reach ≤ j ∧ j < place).length ∧
      Marks line.toList column text.toList[place.toNat]? := by
  obtain ⟨place, rfl⟩ := Int.eq_ofNat_of_zero_le hplace
  obtain ⟨reach, rfl⟩ := Int.eq_ofNat_of_zero_le (Int.le_trans (by decide) hreach)
  have hle' : place ≤ text.toList.length := by
    rw [String.length_toList]
    omega
  have hwindow := charactersAt_eq place reach text.toList (place + reach)
  have hfront := charactersAt_eq place reach text.toList place
  rw [Int.natCast_add] at hwindow
  refine ⟨opening place reach, (around text place reach).line,
    closing text.length place reach, (around text place reach).column, rfl, ?_, ?_, ?_, ?_, ?_⟩
  · rw [hwindow, ← String.toList_inj, toList_line_around, String.toList_append, String.toList_append,
      String.toList_ofList, String.length_toList, List.append_assoc]
    rfl
  · exact tells_opening place reach (by omega)
  · exact tells_closing place reach text.length
  · rw [column_around, hfront, List.length_drop, List.length_take, Nat.min_eq_left hle']
  · exact marks_around hle' (by omega)

/-- Characters are left out on both sides. -/
theorem lines_around_factor :
    (0 : Int) ≤ 5 ∧ (5 : Int) ≤ "12+34*56-78".length ∧ (1 : Int) ≤ 2 ∧
      (around "12+34*56-78" 5 2).lines = ["...34*5...", "     ^"] := by
  have hlength : (5 : Int) ≤ "12+34*56-78".length := by decide
  obtain ⟨before, line, after, column, hlines, hline, hbefore, hafter, hcolumn, -⟩ :=
    @lines_around "12+34*56-78" 5 2 (by decide) hlength (by decide)
  obtain rfl : before = ellipsis := by
    rcases hbefore with ⟨hmark, -⟩ | ⟨-, hnone⟩
    · exact hmark
    · exact absurd ⟨0, by decide, by decide⟩ hnone
  obtain rfl : after = ellipsis := by
    rcases hafter with ⟨hmark, -⟩ | ⟨-, hnone⟩
    · exact hmark
    · exact absurd ⟨7, by decide, by decide⟩ hnone
  refine ⟨by decide, hlength, by decide, ?_⟩
  rw [hlines, hline, hcolumn]
  decide

end ExprCompiler.Excerpt
