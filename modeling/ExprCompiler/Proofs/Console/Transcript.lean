import ExprCompiler.Console.Transcript
import ExprCompiler.Proofs.Token.Tokenization

/-!
# What the calculator shows line by line

For each line the calculator shows what running the line alone gives, under a name that counts the
lines with lexemes up to it (`transcript_by_lines`). Whatever failed before has no part in it. So an
input that goes on behind a line feed is answered as two inputs would be, but for the numbers in the
names.

The calculator passes over a line if all its characters are blank. The scanner says the same of a line
in other words: it has no token but the end (`isBlankText_iff`).
-/

namespace ExprCompiler

/-- The text is cut into no token but the end. -/
def HoldsNoLexeme (text : String) : Prop :=
  tokensOf text = .ok [.endAt text.length]

instance (text : String) : Decidable (HoldsNoLexeme text) :=
  inferInstanceAs (Decidable (tokensOf text = .ok [.endAt text.length]))

theorem isBlankText_iff {text : String} : isBlankText text = true ↔ HoldsNoLexeme text := by
  have hlength : text.length = 0 + text.toList.length := by rw [String.length_toList, Nat.zero_add]
  rw [HoldsNoLexeme, tokensOf_eq_ok_iff_tokenizes, isBlankText, List.all_eq_true, hlength]
  constructor
  · intro hblank
    refine ⟨⟨[], rfl, by simp⟩, by simp [Token.endAt], .singleton _, ?_⟩
    intro i c hc _
    exact hblank c (List.mem_of_getElem? hc)
  · intro htokenizes c hmem
    obtain ⟨i, hi⟩ := List.getElem?_of_mem hmem
    refine htokenizes.gaps i c hi ?_
    -- The end stands behind all characters, and covers none.
    intro token htoken hcover
    obtain rfl := List.mem_singleton.1 htoken
    obtain ⟨hlt, -⟩ := List.getElem?_eq_some_iff.1 hi
    simp only [Token.endAt] at hcover
    omega

namespace Console

/-! ## Lines -/

/-- Pieces without the last one, if that is empty. -/
def dropEmptyLast (pieces : List (List Char)) : List (List Char) :=
  if pieces.getLast? = some [] then pieces.dropLast else pieces

/-- The lines of an input: its pieces between line feeds, where an empty piece behind the last line
feed is no line. -/
def linesOf (input : String) : List String :=
  (dropEmptyLast (input.toList.splitOn '\n')).map .ofList

section Lines

variable {a b : String} {pieces others : List (List Char)}

theorem dropEmptyLast_append (h : others ≠ []) :
    dropEmptyLast (pieces ++ others) = pieces ++ dropEmptyLast others := by
  rw [dropEmptyLast, dropEmptyLast, List.getLast?_append_of_ne_nil _ h]
  split_ifs
  · rw [List.dropLast_append_of_ne_nil h]
  · rfl

theorem dropEmptyLast_cons (first next : List Char) :
    dropEmptyLast (first :: next :: pieces) = first :: dropEmptyLast (next :: pieces) := by
  rw [← List.singleton_append, dropEmptyLast_append (List.cons_ne_nil next pieces),
    List.singleton_append]

theorem inputLines_eq (text : List Char) :
    inputLines text = dropEmptyLast (text.splitOn '\n') := by
  induction text with
  | nil => rfl
  | cons c rest ih =>
    obtain ⟨piece, pieces, hpieces⟩ := List.exists_cons_of_ne_nil (List.splitOn_ne_nil '\n' rest)
    rw [inputLines, List.splitOn_cons_eq_if_modifyHead, ih, hpieces]
    by_cases hc : c = '\n'
    · rw [if_pos hc, if_pos (by simp [hc]), dropEmptyLast_cons]
    · rw [if_neg hc, if_neg (by simp [hc]), List.modifyHead_cons]
      cases pieces with
      | nil => cases piece <;> rfl
      | cons next others =>
        rw [dropEmptyLast_cons, dropEmptyLast_cons]

/-- Behind a line feed, lines are cut as in an input of their own. -/
theorem linesOf_append (h : a = "" ∨ a.toList.getLast? = some '\n') (b : String) :
    linesOf (a ++ b) = linesOf a ++ linesOf b := by
  rcases h with rfl | hlast
  · rw [String.empty_append]
    rfl
  · obtain ⟨front, hfront⟩ := List.getLast?_eq_some_iff.1 hlast
    have hsplit : (a ++ b).toList.splitOn '\n' =
        front.splitOn '\n' ++ b.toList.splitOn '\n' := by
      rw [String.toList_append, hfront, List.append_assoc]
      exact List.splitOn_append_cons_self front b.toList
    have hclosed : a.toList.splitOn '\n' = front.splitOn '\n' ++ [[]] := by
      rw [hfront]
      exact List.splitOn_append_cons_self front []
    rw [linesOf, linesOf, linesOf, hsplit, hclosed,
      dropEmptyLast_append (List.splitOn_ne_nil '\n' b.toList),
      dropEmptyLast_append (List.cons_ne_nil [] []), List.map_append, List.map_append]
    simp [dropEmptyLast]

end Lines

/-! ## What is shown -/

/-- The number of lines that hold a lexeme. -/
def lexicalLines (lines : List String) : Nat :=
  lines.countP fun line => ¬ HoldsNoLexeme line

/-- What is shown of a line that is run alone, as the unit with the given number. -/
def shownAlone (line : String) (number : Nat) : String :=
  match ((run .inMemory line ("CompiledExpr" ++ toString number)).run.run ()).1 with
  | .ok value => floatText value ++ "\n"
  | .error error => error.message ++ "\n"

/-- What is shown for lines, where `taken` names were taken before: for each line the prompt, and if
the line holds a lexeme, what is shown of it alone under the next name. -/
def shownFor (taken : Nat) (lines : List String) : String :=
  .join (lines.mapIdx fun index line => prompt ++
    if HoldsNoLexeme line then ""
    else shownAlone line (taken + lexicalLines (lines.take (index + 1))))

section Shown

variable {taken : Nat} {line : String} {lines : List String}

theorem shownFor_cons_of_holdsNoLexeme (h : HoldsNoLexeme line) :
    shownFor taken (line :: lines) = prompt ++ shownFor taken lines := by
  simp [shownFor, List.mapIdx_cons, String.join_cons, h, lexicalLines]

theorem shownFor_cons_of_not_holdsNoLexeme (h : ¬ HoldsNoLexeme line) :
    shownFor taken (line :: lines) =
      prompt ++ shownAlone line (taken + 1) ++ shownFor (taken + 1) lines := by
  simp [shownFor, List.mapIdx_cons, String.join_cons, h, lexicalLines, Nat.add_comm,
    Nat.add_assoc]

theorem shownFor_append (lines others : List String) :
    shownFor taken (lines ++ others) =
      shownFor taken lines ++ shownFor (taken + lexicalLines lines) others := by
  induction lines generalizing taken with
  | nil => simp [shownFor, lexicalLines]
  | cons line lines ih =>
    by_cases h : HoldsNoLexeme line
    · have hcount : lexicalLines (line :: lines) = lexicalLines lines := by
        simp [lexicalLines, h]
      rw [List.cons_append, shownFor_cons_of_holdsNoLexeme h, shownFor_cons_of_holdsNoLexeme h,
        ih, hcount, String.append_assoc]
    · have hcount : lexicalLines (line :: lines) = lexicalLines lines + 1 := by
        simp [lexicalLines, h]
      rw [List.cons_append, shownFor_cons_of_not_holdsNoLexeme h,
        shownFor_cons_of_not_holdsNoLexeme h, ih, hcount, Nat.add_assoc, Nat.add_comm 1]
      simp only [String.append_assoc]

/-- The only thing that a line leaves to those behind it is the number of names taken. -/
theorem transcriptOf_eq (lines : List String) :
    transcriptOf { taken } lines = shownFor taken lines ++ prompt := by
  induction lines generalizing taken with
  | nil => simp [transcriptOf, shownFor]
  | cons line lines ih =>
    by_cases h : HoldsNoLexeme line
    · have hresponse : respondTo { taken } line = ("", { taken }) := by
        rw [respondTo, if_pos (isBlankText_iff.2 h)]
      simp only [transcriptOf, hresponse]
      rw [shownFor_cons_of_holdsNoLexeme h, ih, String.append_empty, String.append_assoc]
    · have hresponse :
          respondTo { taken } line = (shownAlone line (taken + 1), { taken := taken + 1 }) := by
        rw [respondTo, if_neg (mt isBlankText_iff.1 h)]
        rfl
      simp only [transcriptOf, hresponse, ih]
      rw [shownFor_cons_of_not_holdsNoLexeme h]
      simp only [String.append_assoc]

end Shown

/-- The calculator answers line by line: the prompt and, for a line that holds a lexeme, what running
the line alone gives under the next name. Behind a line feed it goes on as it would begin, with the
names that were not taken. -/
theorem transcript_by_lines :
    (∀ input, transcript input = shownFor 0 (linesOf input) ++ prompt) ∧
      ∀ a b : String, (a = "" ∨ a.toList.getLast? = some '\n') →
        ∃ shown, transcript a = shown ++ prompt ∧
          transcript (a ++ b) =
            shown ++ (shownFor (lexicalLines (linesOf a)) (linesOf b) ++ prompt) := by
  have hlines (input : String) : transcript input = shownFor 0 (linesOf input) ++ prompt := by
    rw [transcript, inputLines_eq]
    exact transcriptOf_eq (linesOf input)
  refine ⟨hlines, ?_⟩
  intro a b hclosed
  refine ⟨shownFor 0 (linesOf a), hlines a, ?_⟩
  rw [hlines, linesOf_append hclosed, shownFor_append, Nat.zero_add, String.append_assoc]

theorem transcript_by_lines_of_three :
    ("1\n \n@\n".toList.getLast? = some '\n') ∧
      lexicalLines (linesOf "1\n \n@\n") = 2 ∧
      ∃ shown, transcript "1\n \n@\n" = shown ++ prompt ∧
        transcript ("1\n \n@\n" ++ "2") = shown ++ (shownFor 2 (linesOf "2") ++ prompt) := by
  have hclosed : "1\n \n@\n".toList.getLast? = some '\n' := by decide
  have hcount : lexicalLines (linesOf "1\n \n@\n") = 2 := by decide +kernel
  refine ⟨hclosed, hcount, ?_⟩
  rw [← hcount]
  exact transcript_by_lines.2 _ _ (.inr hclosed)

end Console

end ExprCompiler
