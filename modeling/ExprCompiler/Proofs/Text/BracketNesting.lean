import Mathlib.Data.List.Infix

/-!
# Brackets in a text

A text nests its brackets to some depth if each bracket that it opens is closed, none is closed before
it is opened, and at most as many as the depth says are open at once, and somewhere just as many. The
depth follows from the pieces of a text: pieces in a row nest as deep as the deeper one
(`NestsBrackets.append`), and a pair of brackets around a text adds one (`NestsBrackets.enclose`).
-/

namespace ExprCompiler

/-- How many more brackets are opened than closed. -/
def openBrackets (chars : List Char) : Int :=
  chars.count '(' - chars.count ')'

/-- `NestsBrackets chars depth`: the brackets of the text are balanced, and nest just as deep. -/
structure NestsBrackets (chars : List Char) (depth : Nat) : Prop where
  /-- At the end no bracket is open. -/
  closed : openBrackets chars = 0
  /-- On the way as many brackets are open as the depth says at most, and never fewer than none. -/
  bounds : ∀ front, front <+: chars → 0 ≤ openBrackets front ∧ openBrackets front ≤ depth
  /-- Somewhere as many are open. -/
  reached : ∃ front, front <+: chars ∧ openBrackets front = depth

theorem openBrackets_append (front rest : List Char) :
    openBrackets (front ++ rest) = openBrackets front + openBrackets rest := by
  simp only [openBrackets, List.count_append]
  omega

theorem openBrackets_eq_zero {chars : List Char} (hopen : '(' ∉ chars) (hclose : ')' ∉ chars) :
    openBrackets chars = 0 := by
  rw [openBrackets, List.count_eq_zero.2 hopen, List.count_eq_zero.2 hclose]
  rfl

theorem openBrackets_cons_open (chars : List Char) :
    openBrackets ('(' :: chars) = 1 + openBrackets chars :=
  openBrackets_append ['('] chars

theorem openBrackets_concat_close (chars : List Char) :
    openBrackets (chars ++ [')']) = openBrackets chars - 1 :=
  openBrackets_append chars [')']

namespace NestsBrackets

variable {chars others : List Char} {depth depth' : Nat}

/-- A text without brackets nests none. -/
theorem of_not_mem (hopen : '(' ∉ chars) (hclose : ')' ∉ chars) : NestsBrackets chars 0 where
  closed := openBrackets_eq_zero hopen hclose
  bounds := by
    intro front hfront
    have hzero := openBrackets_eq_zero (fun h => hopen (hfront.mem h)) fun h => hclose (hfront.mem h)
    omega
  reached := ⟨[], List.nil_prefix, rfl⟩

/-- Texts in a row nest as deep as the deeper one. -/
theorem append (h : NestsBrackets chars depth) (h' : NestsBrackets others depth') :
    NestsBrackets (chars ++ others) (max depth depth') where
  closed := by
    rw [openBrackets_append, h.closed, h'.closed]
    rfl
  bounds := by
    rintro front ⟨rest, hrest⟩
    -- A front ends in the first text, or in the second one behind a first one that is closed.
    rcases List.append_eq_append_iff.1 hrest with ⟨after, hafter, -⟩ | ⟨before, hbefore, hothers⟩
    · have hbounds := h.bounds front ⟨after, hafter.symm⟩
      omega
    · have hbounds := h'.bounds before ⟨rest, hothers.symm⟩
      have hclosed := h.closed
      rw [hbefore, openBrackets_append]
      omega
  reached := by
    obtain ⟨front, hfront, hdepth⟩ := h.reached
    obtain ⟨front', hfront', hdepth'⟩ := h'.reached
    rcases Nat.le_total depth' depth with hle | hle
    · refine ⟨front, hfront.trans (List.prefix_append chars others), ?_⟩
      rw [hdepth, Nat.max_eq_left hle]
    · refine ⟨chars ++ front', (List.prefix_append_right_inj chars).2 hfront', ?_⟩
      rw [openBrackets_append, h.closed, hdepth', Nat.max_eq_right hle, Int.zero_add]

/-- Brackets around a text add one to its depth. -/
theorem enclose (h : NestsBrackets chars depth) :
    NestsBrackets ('(' :: (chars ++ [')'])) (depth + 1) where
  closed := by
    rw [openBrackets_cons_open, openBrackets_concat_close, h.closed]
    rfl
  bounds := by
    intro front hfront
    rcases List.prefix_cons_iff.1 hfront with rfl | ⟨inner, rfl, hinner⟩
    · exact ⟨Int.le_refl _, Int.natCast_nonneg _⟩
    · rw [openBrackets_cons_open]
      rcases List.prefix_concat_iff.1 hinner with rfl | hinner
      · rw [openBrackets_concat_close, h.closed]
        omega
      · have hbounds := h.bounds inner hinner
        omega
  reached := by
    obtain ⟨front, hfront, hdepth⟩ := h.reached
    refine ⟨'(' :: front, ?_, ?_⟩
    · exact List.cons_prefix_cons.2 ⟨rfl, hfront.trans (List.prefix_append chars [')'])⟩
    · rw [openBrackets_cons_open, hdepth]
      omega

end NestsBrackets

end ExprCompiler
