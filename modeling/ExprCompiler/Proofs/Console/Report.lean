import ExprCompiler.Console.Command
import ExprCompiler.Proofs.Compilation.Agreement
import ExprCompiler.Proofs.Compilation.UnitFiles

/-!
# What the command reports

The command ends in one of three ways: the expression is refused, its unit fails, or a value is
shown. `Reports` says for each of them what the exit code, the two outputs and the files are, and
`execute_reports` that every report is one of these and that the log changes the standard error only.

Echoing removes styling sequences from a text. There are none in the source of a unit and in the text
of a double, so these two are shown as they are.
-/

namespace ExprCompiler

/-! ## Texts without styling -/

theorem dropStyling_eq_self {text : List Char} (h : '\x1b' ∉ text) : dropStyling text = text := by
  induction text with
  | nil => simp [dropStyling, afterStyling?]
  | cons c rest ih =>
    obtain ⟨hc, hrest⟩ := not_or.1 (mt List.mem_cons.2 h)
    have hnone : afterStyling? (c :: rest) = none := by
      unfold afterStyling?
      split
      · simp_all
      · rfl
    rw [dropStyling]
    split
    · simp_all
    · exact congrArg (c :: ·) (ih hrest)

theorem withoutStyling_eq_self {text : String} (h : '\x1b' ∉ text.toList) :
    withoutStyling text = text := by
  rw [withoutStyling, dropStyling_eq_self h, String.ofList_toList]

theorem styling_not_mem_digits (n : Nat) : '\x1b' ∉ Decimal.digits n := by
  intro hmem
  have hdigit := Nat.isDigit_of_mem_toDigits (by decide) (by decide) hmem
  exact absurd hdigit (by decide)

theorem styling_not_mem_positional {digits : List Char} (h : '\x1b' ∉ digits) (places : Int) :
    '\x1b' ∉ DecimalLayout.positional digits places := by
  have htake : '\x1b' ∉ digits.take places.toNat := mt List.mem_of_mem_take h
  have hdrop : '\x1b' ∉ digits.drop places.toNat := mt List.mem_of_mem_drop h
  unfold DecimalLayout.positional
  split_ifs <;> simp [h, htake, hdrop]

theorem styling_not_mem_exponential {digits : List Char} (h : '\x1b' ∉ digits)
    (layout : DecimalLayout) (exponent : Int) : '\x1b' ∉ layout.exponential digits exponent := by
  have hmagnitude := styling_not_mem_digits exponent.natAbs
  unfold DecimalLayout.exponential
  rcases digits with _ | ⟨first, _ | ⟨second, rest⟩⟩ <;> split_ifs <;> simp_all

theorem styling_not_mem_write (layout : DecimalLayout) (d : Decimal) :
    '\x1b' ∉ layout.write d := by
  have hdigits := styling_not_mem_digits d.significand
  simp only [DecimalLayout.write]
  split_ifs
  · exact styling_not_mem_positional hdigits _
  · exact styling_not_mem_exponential hdigits layout _

theorem styling_not_mem_floatText (x : Float) : '\x1b' ∉ (floatText x).toList := by
  unfold floatText
  split
  · decide
  · split_ifs <;> decide
  · rename_i negative m q _
    have hmagnitude := styling_not_mem_write floatLayout (shortestDecimal m q)
    cases negative <;> simp [hmagnitude]

theorem Expr.IsReadable.styling_not_mem_spelled {tree : Expr} (h : tree.IsReadable) :
    '\x1b' ∉ tree.spelled := by
  intro hmem
  rcases h.mem_spelled _ hmem with hnumber | hsign
  · exact absurd hnumber (by decide)
  · exact absurd hsign (by decide)

/-- The source of a unit is an artifact between fixed texts and a name. -/
theorem Compiles.styling_not_mem_source {code unitName : String} {compiled : CompiledUnit}
    (h : Compiles code unitName (.ok compiled)) (hname : '\x1b' ∉ unitName.toList) :
    '\x1b' ∉ compiled.source.toList := by
  cases h with
  | @compiled tokens expr artifact source htokens hexpr hartifact hidentifier hsource =>
    have hcode : Expr.ofText code = .ok expr := (Expr.ofText_of_tokensOf htokens).trans hexpr
    obtain ⟨hreadable, -⟩ := Expr.isReadable_of_ofText hcode
    have hspelled := hreadable.styling_not_mem_spelled
    have hopening : '\x1b' ∉ sourceOpening.toList := by decide
    have hmiddle : '\x1b' ∉ sourceMiddle.toList := by decide
    obtain rfl := Except.ok.inj (hartifact.symm.trans hreadable.artifact_eq)
    obtain rfl := Except.ok.inj (hsource.symm.trans (if_pos hidentifier))
    simp [hopening, hname, hmiddle, hspelled]

namespace Console

/-! ## Reports -/

/-- What is shown of a source, if it is wanted. -/
def sourceText (options : Options) (source : String) : String :=
  if options.showSource then "Generated source:\n" ++ source ++ "\n" else ""

/-- The file of the command's unit, if there is a directory for it. -/
def unitFiles (options : Options) (source : String) : List (Path × String) :=
  match options.directory with
  | some directory => [(unitPlace directory "CompiledExpr1", source)]
  | none => []

/-- `EndsWithError options error stderr`: the text is the report of an error as it is echoed, after a
log that is empty if it is not wanted. -/
def EndsWithError (options : Options) (error : RunError) (stderr : String) : Prop :=
  ∃ log, (options.verbose = false → log = "") ∧
    stderr = log ++ (withoutStyling error.message ++ "\n")

/-- `Reports options code report`: the report fits what becomes of the text. -/
inductive Reports (options : Options) (code : String) (report : Report) : Prop where
  /-- The text cannot be compiled. -/
  | refused {error : RunError} (hcompile : compile code "CompiledExpr1" = .error error)
      (hexit : report.exitCode = 1) (hstdout : report.stdout = "")
      (hstderr : EndsWithError options error report.stderr) (hfiles : report.files.entries = [])
  /-- The text is compiled, and its unit fails. -/
  | failed {compiled : CompiledUnit} {error : RunError}
      (hcompile : compile code "CompiledExpr1" = .ok compiled)
      (hrun : runResult options.directory {} code "CompiledExpr1" = .error error)
      (hexit : report.exitCode = 1) (hstdout : report.stdout = sourceText options compiled.source)
      (hstderr : EndsWithError options error report.stderr)
      (hfiles : report.files.entries = unitFiles options compiled.source)
  /-- The text is compiled, and its unit returns a value. -/
  | finished {compiled : CompiledUnit} {value : Float}
      (hcompile : compile code "CompiledExpr1" = .ok compiled)
      (hrun : runResult options.directory {} code "CompiledExpr1" = .ok value)
      (hexit : report.exitCode = 0)
      (hstdout : report.stdout =
        sourceText options compiled.source ++ ("Result = " ++ floatText value ++ "\n"))
      (hstderr : options.verbose = false → report.stderr = "")
      (hfiles : report.files.entries = unitFiles options compiled.source)

section Execute

variable {options : Options} {code : String} {compiled : CompiledUnit} {error : RunError}

theorem shownLog_of_not_verbose (h : options.verbose = false) (log : List LogRecord) :
    shownLog options log = "" := by
  rw [shownLog, if_neg (by simp [h])]

theorem shownSource_eq (h : compile code "CompiledExpr1" = .ok compiled) :
    shownSource options compiled = sourceText options compiled.source := by
  have hsource := (compile_eq_iff.1 h).styling_not_mem_source (by decide)
  rw [shownSource, sourceText, echo, withoutStyling_eq_self (by simp [hsource])]

theorem echo_floatText (value : Float) :
    echo ("Result = " ++ floatText value) = "Result = " ++ floatText value ++ "\n" := by
  have hvalue := styling_not_mem_floatText value
  rw [echo, withoutStyling_eq_self (by simp [hvalue])]

theorem endsWithError_shownLog (log : List LogRecord) :
    EndsWithError options error (shownLog options log ++ echo error.message) :=
  ⟨shownLog options log, fun h => shownLog_of_not_verbose h log, rfl⟩

/-- A unit is written before it is run, so the files are the same however it ends. -/
theorem entries_after_run {files : FileStore} {result : Except RunError Float}
    (h : compile code "CompiledExpr1" = .ok compiled)
    (hrun : (compiled.run (.inPlace options.directory)).run {} = (result, files)) :
    files.entries = unitFiles options compiled.source := by
  have hcompiles := compile_eq_iff.1 h
  have hafter : files =
      (((Runner.inPlace options.directory).evaluate compiled.artifact "CompiledExpr1").run.run
        {}).2 := by
    rw [← hcompiles.unitName_eq]
    exact (congrArg Prod.snd hrun).symm
  rw [hafter, unitFiles]
  cases options.directory with
  | none => rfl
  | some directory =>
    rw [Runner.inPlace, Runner.after_inDirectory directory {} hcompiles.unitSource_eq]
    rfl

theorem runResult_of_run {files : FileStore} {result : Except RunError Float}
    (h : compile code "CompiledExpr1" = .ok compiled)
    (hrun : (compiled.run (.inPlace options.directory)).run {} = (result, files)) :
    runResult options.directory {} code "CompiledExpr1" = result := by
  rw [runResult, run, h]
  exact congrArg Prod.fst hrun

theorem reports_execute (options : Options) (code : String) :
    Reports options code (execute options code) := by
  have hname : ({} : NameSupply).next.1 = "CompiledExpr1" := by decide
  cases hcompile : compile code "CompiledExpr1" with
  | error error =>
    simp only [execute, hname, hcompile]
    exact .refused hcompile rfl rfl (endsWithError_shownLog _) rfl
  | ok compiled =>
    obtain ⟨result, files, hrun⟩ : ∃ result files,
        (compiled.run (.inPlace options.directory)).run {} = (result, files) := ⟨_, _, rfl⟩
    have hresult := runResult_of_run hcompile hrun
    have hfiles := entries_after_run hcompile hrun
    have hsource : shownSource options compiled = sourceText options compiled.source :=
      shownSource_eq hcompile
    simp only [execute, hname, hcompile, hrun]
    cases result with
    | error error => exact .failed hcompile hresult rfl hsource (endsWithError_shownLog _) hfiles
    | ok value =>
      have hstdout : shownSource options compiled ++ echo ("Result = " ++ floatText value) =
          sourceText options compiled.source ++ ("Result = " ++ floatText value ++ "\n") := by
        rw [hsource, echo_floatText]
      exact .finished hcompile hresult rfl hstdout (shownLog_of_not_verbose · _) hfiles

/-- Nothing that fixes the exit code, the standard output and the files depends on the log. -/
theorem Reports.agree {verbose : Bool} {report report' : Report} (h : Reports options code report)
    (h' : Reports { options with verbose } code report') :
    report'.exitCode = report.exitCode ∧ report'.stdout = report.stdout ∧
      report'.files.entries = report.files.entries := by
  -- Two different cases would need two outcomes of one compilation or of one run.
  cases h <;> cases h' <;> simp_all [sourceText, unitFiles]

end Execute

/-- Every report of the command fits what becomes of the text, and a log makes a difference to the
standard error only. -/
theorem execute_reports (options : Options) (code : String) :
    Reports options code (execute options code) ∧
      ∀ verbose, (execute { options with verbose } code).exitCode = (execute options code).exitCode ∧
        (execute { options with verbose } code).stdout = (execute options code).stdout ∧
        (execute { options with verbose } code).files.entries =
          (execute options code).files.entries := by
  have hreports := reports_execute options code
  refine ⟨hreports, ?_⟩
  intro verbose
  exact hreports.agree (reports_execute { options with verbose } code)

end Console

end ExprCompiler
