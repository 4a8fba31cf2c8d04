import ExprCompiler.Proofs.Script.ArtifactTerm
import ExprCompiler.Units.Runner

/-!
# Loading the unit of an expression

A unit's source is taken apart again into what it was made of: the text before the artifact is a
docstring and the start of a function as the loader reads them (`functionBody?_source`), and neither
an identifier nor an artifact holds a character that means something to the loader. What is loaded
for a readable expression is a script whose function returns the expression's term, so running it
gives the value of the expression or divides by zero as evaluating the expression does
(`evaluateSource_cases`).
-/

namespace ExprCompiler

/-! ## Characters -/

theorem ne_of_isIdentifier {name : String} (h : isIdentifier name = true) :
    ∀ c ∈ name.toList, c ≠ '\x00' ∧ c ≠ '\r' ∧ c ≠ '\x22' := by
  have hstart : ∀ c, identifierStart.has c = true → c ≠ '\x00' ∧ c ≠ '\r' ∧ c ≠ '\x22' := by
    intro c hc
    refine ⟨?_, ?_, ?_⟩ <;> (rintro rfl; revert hc; decide)
  have hcontinue : ∀ c, identifierContinue.has c = true → c ≠ '\x00' ∧ c ≠ '\r' ∧ c ≠ '\x22' := by
    intro c hc
    refine ⟨?_, ?_, ?_⟩ <;> (rintro rfl; revert hc; decide)
  unfold isIdentifier isIdentifierShape at h
  split at h
  · simp at h
  · rename_i first rest htext
    rw [Bool.and_eq_true, List.all_eq_true] at h
    rw [htext]
    exact List.forall_mem_cons.2 ⟨hstart first h.1, fun c hc => hcontinue c (h.2 c hc)⟩

/-- An artifact is made of the characters of numbers, signs and brackets. -/
theorem Expr.IsReadable.mem_spelled {tree : Expr} (h : tree.IsReadable) :
    ∀ c ∈ tree.spelled, isInNumber c = true ∨ c ∈ signs.map Prod.fst := by
  induction tree with
  | number text =>
    intro c hc
    exact .inl ((IsNumberText.pointed h).forall_isInNumber c hc)
  | binary op left right ihleft ihright =>
    have hsign : op.sign ∈ signs.map Prod.fst := by cases op <;> decide
    intro c hc
    simp only [spelled, List.mem_cons, List.mem_append, List.not_mem_nil, or_false] at hc
    rcases hc with rfl | hc | rfl | hc | rfl
    · exact .inr (by decide)
    · exact ihleft h.1 c hc
    · exact .inr hsign
    · exact ihright h.2 c hc
    · exact .inr (by decide)
  | raw _ => exact h.elim

theorem Expr.IsReadable.ne_of_mem_spelled {tree : Expr} (h : tree.IsReadable) :
    ∀ c ∈ tree.spelled, c ≠ '\x00' ∧ c ≠ '\r' := by
  intro c hc
  rcases h.mem_spelled c hc with hnumber | hsign
  · refine ⟨?_, ?_⟩ <;> (rintro rfl; revert hnumber; decide)
  · refine ⟨?_, ?_⟩ <;> (rintro rfl; revert hsign; decide)

theorem Script.unifyNewlines_eq {chars : List Char} (h : ∀ c ∈ chars, c ≠ '\r') :
    unifyNewlines chars = chars := by
  induction chars with
  | nil => rfl
  | cons c rest ih =>
    have hc := h c List.mem_cons_self
    have hrest := ih fun d hd => h d (List.mem_cons_of_mem c hd)
    simp [unifyNewlines, hc, hrest]

/-! ## Taking a source apart -/

namespace Script

theorem isPrefixOf?_append (front rest : List Char) :
    front.isPrefixOf? (front ++ rest) = some rest :=
  List.isPrefixOf?_eq_some_iff_append_eq.2 rfl

theorem afterDocstring?_eq {docstring : List Char} (h : '\x22' ∉ docstring) (rest : List Char) :
    afterDocstring? (docstringQuotes.toList ++ (docstring ++ (docstringQuotes.toList ++ rest))) =
      some rest := by
  have hquotes : (docstring ++ (docstringQuotes.toList ++ rest)).dropWhile (· != '\x22') =
      docstringQuotes.toList ++ rest := by
    refine dropWhile_run (fun c hc => bne_iff_ne.2 fun heq => h (heq ▸ hc)) fun c hc => ?_
    have hfirst : '\x22' = c := Option.some.inj hc
    simp [← hfirst]
  rw [afterDocstring?, isPrefixOf?_append]
  simp only [Option.bind_eq_bind, Option.bind_some, hquotes, isPrefixOf?_append]

theorem afterRun?_replicate {c stop : Char} (h : stop ≠ c) (count : Nat) (rest : List Char) :
    afterRun? c (List.replicate (count + 1) c ++ stop :: rest) = some (stop :: rest) := by
  have hrun : (List.replicate count c ++ stop :: rest).dropWhile (· == c) = stop :: rest := by
    rw [List.dropWhile_append_of_pos fun d hd => by simpa using List.eq_of_mem_replicate hd]
    exact List.dropWhile_cons_of_neg (by simpa using h)
  have hfirst : [c].isPrefixOf? (List.replicate (count + 1) c ++ stop :: rest) =
      some (List.replicate count c ++ stop :: rest) := isPrefixOf?_append [c] _
  rw [afterRun?, hfirst]
  simp only [Option.bind_eq_bind, Option.bind_some, hrun]
  rfl

/-- The body of the function is found behind any docstring, after any number of line feeds and under
any indentation. -/
theorem functionBody?_eq {docstring : List Char} (h : '\x22' ∉ docstring) (feeds blanks : Nat)
    (body : List Char) :
    functionBody? (docstringQuotes.toList ++ (docstring ++ (docstringQuotes.toList ++
      (List.replicate (feeds + 1) '\n' ++ (definitionLine.toList ++
        (List.replicate (blanks + 1) ' ' ++ (returnWord.toList ++ body))))))) = some body := by
  have hdefinition : ∀ rest, afterRun? '\n'
      (List.replicate (feeds + 1) '\n' ++ (definitionLine.toList ++ rest)) =
        some (definitionLine.toList ++ rest) :=
    fun rest => afterRun?_replicate (by decide) feeds _
  have hstatement : afterRun? ' ' (List.replicate (blanks + 1) ' ' ++ (returnWord.toList ++ body)) =
      some (returnWord.toList ++ body) := afterRun?_replicate (by decide) blanks _
  simp only [functionBody?, afterDocstring?_eq h, hdefinition, isPrefixOf?_append, hstatement,
    Option.bind_eq_bind, Option.bind_some]

end Script

/-- The text before a unit's name starts a docstring. -/
theorem exists_sourceOpening : ∃ title, '\x22' ∉ title ∧
    sourceOpening.toList = Script.docstringQuotes.toList ++ title :=
  ⟨sourceOpening.toList.drop 3, by decide, by decide⟩

/-- The text behind a unit's name ends the docstring and goes on to what the function returns. -/
theorem sourceMiddle_eq : sourceMiddle.toList = Script.docstringQuotes.toList ++
    (List.replicate 3 '\n' ++ (Script.definitionLine.toList ++
      (List.replicate 4 ' ' ++ Script.returnWord.toList))) := by
  decide

/-- The body of the function in a unit's source is what follows the text behind the unit's name. -/
theorem functionBody?_source {name : List Char} (hname : '\x22' ∉ name) (body : List Char) :
    Script.functionBody? (sourceOpening.toList ++ (name ++ (sourceMiddle.toList ++ body))) =
      some body := by
  obtain ⟨title, htitle, hopening⟩ := exists_sourceOpening
  have hdocstring : '\x22' ∉ title ++ name := by simp [htitle, hname]
  simpa only [hopening, sourceMiddle_eq, List.append_assoc] using
    Script.functionBody?_eq hdocstring 2 3 body

/-- The source of a unit is loaded as the script that its body is. -/
theorem loadSource_eq {name : String} (hname : isIdentifier name = true) {body : List Char}
    (hbody : ∀ c ∈ body, c ≠ '\x00' ∧ c ≠ '\r') {source : String}
    (hsource : source.toList =
      sourceOpening.toList ++ (name.toList ++ (sourceMiddle.toList ++ body)))
    {program : Script.Program} (hprogram : Script.Program.ofBody? body = some program)
    (hshallow : program.isShallow = true) :
    loadSource source = program.load.mapError .failed := by
  have hidentifier := ne_of_isIdentifier hname
  have hchars : ∀ c ∈ source.toList, c ≠ '\x00' ∧ c ≠ '\r' := by
    intro c hc
    simp only [hsource, List.mem_append] at hc
    rcases hc with hc | hc | hc | hc
    · have hnone : '\x00' ∉ sourceOpening.toList ∧ '\r' ∉ sourceOpening.toList := by decide
      exact ⟨fun h => hnone.1 (h ▸ hc), fun h => hnone.2 (h ▸ hc)⟩
    · exact ⟨(hidentifier c hc).1, (hidentifier c hc).2.1⟩
    · have hnone : '\x00' ∉ sourceMiddle.toList ∧ '\r' ∉ sourceMiddle.toList := by decide
      exact ⟨fun h => hnone.1 (h ▸ hc), fun h => hnone.2 (h ▸ hc)⟩
    · exact hbody c hc
  have hnul : source.toList.contains '\x00' = false := by
    rw [List.contains_eq_mem, decide_eq_false_iff_not]
    exact fun hmem => (hchars _ hmem).1 rfl
  have hnewlines := Script.unifyNewlines_eq fun c hc => (hchars c hc).2
  have hunquoted : '\x22' ∉ name.toList := fun hmem => (hidentifier _ hmem).2.2 rfl
  have hread : Script.Program.ofText? source.toList = some program := by
    rw [hsource, Script.Program.ofText?, functionBody?_source hunquoted, Option.bind_eq_bind,
      Option.bind_some, hprogram]
  rw [loadSource, hnul, hnewlines, hread]
  simp only [Bool.false_eq_true, if_false, hshallow, if_true]

/-! ## The script of an expression -/

namespace Script

theorem Term.bracketed_ne_newline (term : Term) : ∀ lexeme ∈ term.bracketed, lexeme ≠ .newline := by
  induction term with
  | value v => simp [bracketed]
  | name text => simp [bracketed]
  | signed negative operand ih =>
    simp only [bracketed, List.forall_mem_cons, List.forall_mem_append, ne_eq, reduceCtorEq,
      not_false_eq_true, true_and]
    exact ⟨ih, by simp⟩
  | binary op left right ihleft ihright =>
    simp only [bracketed, List.forall_mem_cons, List.forall_mem_append, ne_eq, reduceCtorEq,
      not_false_eq_true, true_and]
    exact ⟨ihleft, ihright, by simp⟩

theorem Term.isEmpty_bracketed (term : Term) : term.bracketed.isEmpty = false := by
  cases term <;> rfl

theorem splitLines_line {line : List Lexeme} (h : ∀ lexeme ∈ line, lexeme ≠ .newline) :
    splitLines (line ++ [.newline]) = (line, [[]]) := by
  induction line with
  | nil => rfl
  | cons lexeme rest ih =>
    have hne := h lexeme List.mem_cons_self
    have hrest := ih fun other hmem => h other (List.mem_cons_of_mem lexeme hmem)
    rw [List.cons_append, splitLines, hrest]
    exact hne

/-- A line of a term in brackets is the body of a script without statements. -/
theorem Program.ofBody?_of_bracketed {text : List Char} {term : Term}
    (h : lexemes? 0 text = some (term.bracketed ++ [.newline])) :
    Program.ofBody? text = some { body := some term, statements := [] } := by
  rw [Program.ofBody?, h]
  simp only [Option.bind_eq_bind, Option.bind_some, splitLines_line term.bracketed_ne_newline,
    term.isEmpty_bracketed, Term.ofLexemes?_bracketed]
  rfl

end Script

/-- A readable expression within the limit on operations is a script in which its term is the body,
and the term is not too deep. -/
theorem Expr.IsReadable.exists_program {tree : Expr} (h : tree.IsReadable)
    (hdepth : tree.depth ≤ maxOperationDepth) :
    ∃ term, tree.HasTerm term ∧
      Script.Program.ofBody? (tree.spelled ++ ['\n']) =
        some { body := some term, statements := [] } ∧
      ({ body := some term, statements := [] } : Script.Program).isShallow = true := by
  obtain ⟨term, hterm, hlexemes⟩ := h.exists_term
  have hnesting : 0 + tree.depth ≤ Script.maxNesting := by
    have hlimits : maxOperationDepth ≤ Script.maxNesting := by decide
    omega
  have hshallow : term.depth ≤ Script.maxTermDepth := by
    have hlimits : maxOperationDepth + 1 ≤ Script.maxTermDepth := by decide
    rw [hterm.depth_eq]
    omega
  refine ⟨term, hterm, ?_, ?_⟩
  · refine Script.Program.ofBody?_of_bracketed (hlexemes hnesting ?_ Script.lexemes?_newline)
    exact Script.endsLiteral_cons (by decide)
  · simp [Script.Program.isShallow, Script.Program.terms, hshallow]

theorem evaluateSource_of_call_ok {source : String} {loaded : Script.Loaded} {x : Float}
    (hload : loadSource source = .ok loaded) (hentry : loaded.hasEntry = true)
    (hcall : loaded.call = .ok (.float x)) : evaluateSource source = .ok x := by
  simp only [evaluateSource, hload, Except.mapError, bind, Except.bind, hentry, if_true, hcall]
  rfl

theorem evaluateSource_of_call_error {source : String} {loaded : Script.Loaded}
    {fault : Script.Fault} (hload : loadSource source = .ok loaded)
    (hentry : loaded.hasEntry = true) (hcall : loaded.call = .error fault) :
    evaluateSource source = .error (.running fault) := by
  simp only [evaluateSource, hload, Except.mapError, bind, Except.bind, hentry, if_true, hcall]

/-- The unit of a readable expression returns the value of the expression, or it divides by zero as
the evaluation of the expression does. -/
theorem Expr.IsReadable.evaluateSource_cases {tree : Expr} (h : tree.IsReadable)
    (hdepth : tree.depth ≤ maxOperationDepth) {name source : String}
    (hname : isIdentifier name = true)
    (hsource : ExprCompiler.unitSource name (.ofList tree.spelled) = .ok source) :
    (∃ x, tree.evaluate = .ok x ∧ evaluateSource source = .ok x) ∨
      (tree.evaluate = .error .divisionByZero ∧
        evaluateSource source = .error (.running (.divisionByZero true))) := by
  obtain ⟨term, hterm, hprogram, hshallow⟩ := h.exists_program hdepth
  have hbody : ∀ c ∈ tree.spelled ++ ['\n'], c ≠ '\x00' ∧ c ≠ '\r' := by
    rw [List.forall_mem_append]
    exact ⟨h.ne_of_mem_spelled, by simp⟩
  have hchars : source.toList =
      sourceOpening.toList ++ (name.toList ++ (sourceMiddle.toList ++ (tree.spelled ++ ['\n']))) := by
    rw [ExprCompiler.unitSource, if_pos hname] at hsource
    obtain rfl := Except.ok.inj hsource
    simp only [String.toList_append, String.toList_ofList, List.append_assoc]
    rfl
  have hload : loadSource source =
      .ok { body := some term, globals := [(Script.entryName, .function)] } :=
    loadSource_eq hname hbody hchars hprogram hshallow
  rcases hterm.evaluate_cases [(Script.entryName, .function)] with ⟨x, hx, hvalue⟩ | ⟨hx, hfault⟩
  · exact .inl ⟨x, hx, evaluateSource_of_call_ok hload rfl hvalue⟩
  · exact .inr ⟨hx, evaluateSource_of_call_error hload rfl hfault⟩

end ExprCompiler
