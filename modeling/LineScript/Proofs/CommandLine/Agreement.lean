import LineScript.CommandLine.Basic
import LineScript.Proofs.Except
import LineScript.Proofs.Run.WorkerReply
import LineScript.Proofs.Text.Lines

/-! The command beside the run. The command unifies the line ends of a program while it reads it, and runs what it has
    read; a run knows a program only by its lines, and they are the same. So what the command leaves behind is what
    a run of the text as it stands gives: its output with one line end, or its error, and an exit code that tells which. -/

namespace LineScript

/-- A run here knows a program by its lines. -/
theorem run_same_lines {d : Defaults} {serve : Worker.Request → Except Fault Worker.Exchange} {settings : Settings}
    (hw : settings.usesWorker = false) {code code' : Text} (h : Text.lines code = Text.lines code') :
    run d serve settings code = run d serve settings code' := by
  have hreport : ∀ limits, Report.ofProgram limits code = Report.ofProgram limits code' := fun limits => by
    simp only [Report.ofProgram, Program.execute, h]
  simp only [run, hw, Bool.false_eq_true, if_false, hreport]

namespace CommandLine

variable {look : Path → Found} {input file program t : Text} {o : Options} {r : Report}
  {serve : Worker.Request → Except Fault Worker.Exchange}

/-! ### The program -/

/-- The program that a command names, as it stands there: the input for a dash, or the decoded content of a file. -/
inductive Holds (look : Path → Found) (input : Text) : Text → Text → Prop where
  | input : Holds look input "-".toText input
  | file {file t : Text} {content : List Nat} (hdash : file ≠ "-".toText)
    (hname : Text.encodeFault? Text.isEscapedByte (Path.ofText file).text = none)
    (hnull : (Path.ofText file).text.contains (.char '\x00') = false) (hfound : look (Path.ofText file) = .bytes content)
    (hcontent : Text.ofUtf8 content = .ok t) : Holds look input file t

/-- A command reads a program with its line ends unified. -/
theorem source_of_holds (h : Holds look input file t) : source look input file = .ok (Text.unifyBreaks t) := by
  cases h with
  | input => rfl
  | file hdash hname hnull hfound hcontent =>
    rw [source, if_neg hdash]
    simp only [readFile, hname, hnull, Bool.false_eq_true, if_false, hfound, hcontent]

/-! ### The settings -/

/-- The limits that options set are integers. -/
structure Options.Numeric (o : Options) : Prop where
  steps : ∀ v, o.maxSteps = some v → ∃ n, v = .int n
  output : ∀ v, o.maxOutput = some v → ∃ n, v = .int n

theorem usesWorker_settings (h : o.worker = false) : o.settings.usesWorker = false := by
  obtain ⟨_, steps, output, worker, timeout⟩ := o
  obtain rfl : worker = false := h
  cases steps <;> cases output <;> rfl

theorem limits_settings (h : o.worker = false) (hnumeric : o.Numeric) :
    ∃ limits, o.settings.limits .standard = .ok limits := by
  obtain ⟨_, steps, output, worker, timeout⟩ := o
  obtain rfl : worker = false := h
  cases steps with
  | none =>
    cases output with
    | none => exact ⟨_, rfl⟩
    | some v =>
      obtain ⟨n, rfl⟩ := hnumeric.output v rfl
      exact ⟨_, rfl⟩
  | some v =>
    obtain ⟨n, rfl⟩ := hnumeric.steps v rfl
    cases output with
    | none => exact ⟨_, rfl⟩
    | some v =>
      obtain ⟨m, rfl⟩ := hnumeric.output v rfl
      exact ⟨_, rfl⟩

/-! ### The outcome -/

/-- What a command leaves behind tells the report: on success the output, with a line end added if it has none, and
    otherwise the error as it is rendered, with a line end. -/
inductive Tells (r : Report) (outcome : Outcome) : Prop where
  | success {output : Text} (hr : r = .success (.str output)) (hexit : outcome.exit = 0) (hstderr : outcome.stderr = [])
    (hstdout : (output.getLast? = some (.char '\n') ∧ outcome.stdout = output) ∨
      (output.getLast? ≠ some (.char '\n') ∧ outcome.stdout = output ++ "\n".toText))
  | failure {f : Failure} {rendered : Text} (hr : r = .failure f) (hrendered : r.rendered = .str rendered)
    (hexit : outcome.exit = 1) (hstdout : outcome.stdout = []) (hstderr : outcome.stderr = rendered ++ "\n".toText)

theorem tells_failure (f : Failure) : Tells (.failure f) (.ofReport (.failure f)) := .failure rfl rfl rfl rfl rfl

theorem tells_success {output : Text} (h : output ≠ []) :
    Tells (.success (.str output)) (.ofReport (.success (.str output))) := by
  have hstdout : (Outcome.ofReport (.success (.str output))).stdout = endLine output := by
    have htruthy : (Json.str output).truthy = true := by simpa [Json.truthy] using h
    simp only [Outcome.ofReport, Report.success, Report.ok, Option.isNone_none, htruthy, if_true, Json.plain]
  refine .success rfl rfl rfl ?_
  rw [hstdout, endLine]
  by_cases hend : output.getLast? = some (.char '\n')
  · exact Or.inl ⟨hend, if_pos hend⟩
  · exact Or.inr ⟨hend, if_neg hend⟩

theorem tells_ofProgram (limits : Limits) (code : Text) :
    Tells (.ofProgram limits code) (.ofReport (.ofProgram limits code)) := by
  rcases Report.ofProgram_cases limits code with ⟨output, hne, h⟩ | ⟨kind, message, line, text, -, h⟩
  · rw [h]
    exact tells_success hne
  · rw [h]
    exact tells_failure _

/-- The runner of a command gives the report of the run, and an error of the execution where that gives none. -/
theorem report_cases (serve : Worker.Request → Except Fault Worker.Exchange) (hw : o.worker = false) (code : Text) :
    (∃ limits, run .standard serve o.settings code = .ok (.ofProgram limits code) ∧
      Runner.report ⟨o.settings, serve⟩ [] code = .ofProgram limits code) ∨
    ∃ fault, run .standard serve o.settings code = .error fault ∧ ¬o.Numeric ∧
      Runner.report ⟨o.settings, serve⟩ [] code = .failure (.execution fault.message) := by
  have hmerge : o.settings.merge [] = o.settings := rfl
  cases hl : o.settings.limits .standard with
  | ok limits =>
    have hrun : run .standard serve o.settings code = .ok (.ofProgram limits code) :=
      run_here hl (usesWorker_settings hw) code
    exact Or.inl ⟨limits, hrun, by simp only [Runner.report, hmerge, hrun]⟩
  | error fault =>
    have hrun : run .standard serve o.settings code = .error fault := by rw [run, hl]; rfl
    refine Or.inr ⟨fault, hrun, fun hnumeric => ?_, by simp only [Runner.report, hmerge, hrun]⟩
    obtain ⟨limits, hlimits⟩ := limits_settings hw hnumeric
    rw [hl] at hlimits
    cases hlimits

/-- A command line that is understood and asks for no worker leaves behind what tells the report of its program, as
    that stands in the file or in the input: its lines are the lines of what is read, so that the report is the same
    down to the number of the line that is blamed. -/
theorem command_tells_run (serve : Worker.Request → Except Fault Worker.Exchange) (look : Path → Found) (input : Text)
    {arguments : List Text} (ha : Options.ofArguments arguments = .ok (file, o)) (hw : o.worker = false)
    (ht : Holds look input file t) :
    (∀ text, Text.lines (Text.unifyBreaks text) = Text.lines text) ∧
    ∃ r outcome, command serve look input arguments = .ok outcome ∧ Tells r outcome ∧
      Runner.report ⟨o.settings, serve⟩ [] (Text.unifyBreaks t) = r ∧
      (o.Numeric → run .standard serve o.settings t = .ok r) ∧
      ∀ fault, run .standard serve o.settings t = .error fault → r = .failure (.execution fault.message) := by
  have hrun : run .standard serve o.settings (Text.unifyBreaks t) = run .standard serve o.settings t :=
    run_same_lines (usesWorker_settings hw) (Text.lines_unifyBreaks t)
  have hcommand : command serve look input arguments =
      .ok (.ofReport (Runner.report ⟨o.settings, serve⟩ [] (Text.unifyBreaks t))) := by
    simp only [command, ha, source_of_holds ht]
    rfl
  refine ⟨Text.lines_unifyBreaks, _, _, hcommand, ?_, rfl, ?_, ?_⟩
  all_goals rcases report_cases serve hw (Text.unifyBreaks t) with
    ⟨limits, hok, hreport⟩ | ⟨fault, herror, hnot, hreport⟩
  · rw [hreport]
    exact tells_ofProgram limits _
  · rw [hreport]
    exact tells_failure _
  · intro _
    rw [← hrun, hok, hreport]
  · exact fun hnumeric => absurd hnumeric hnot
  · intro fault h
    rw [← hrun, hok] at h
    cases h
  · intro fault' h
    rw [← hrun, herror] at h
    rw [hreport, Except.error.inj h]

/-- The second line ends with a lone carriage return and the third fails; in the input they are told apart. -/
theorem command_tells_run_of_input :
    ∃ f outcome, run .standard Worker.serve [(Settings.maxStepsKey, .int 9)] "x = 1\r\nprint(x)\rprint(y)".toText =
        .ok (.failure f) ∧ f.line = .int 3 ∧
      command Worker.serve (fun _ => .nothing) "x = 1\r\nprint(x)\rprint(y)".toText
        ["-".toText, "--max-steps".toText, "9".toText] = .ok outcome ∧
      outcome = ⟨1, [], "Error: Runtime Error: Error in line 'print(y)': Unknown expression: y\n".toText⟩ := by
  have ha : Options.ofArguments ["-".toText, "--max-steps".toText, "9".toText] =
      .ok ("-".toText, { Options.none with file := some "-".toText, maxSteps := some (.int 9) }) := by rfl
  have hnumeric : Options.Numeric { Options.none with file := some "-".toText, maxSteps := some (.int 9) } :=
    ⟨fun v hv => ⟨9, (Option.some.inj hv).symm⟩, fun v hv => nomatch hv⟩
  obtain ⟨-, r, outcome, hcommand, htells, -, hrun, -⟩ :=
    command_tells_run Worker.serve (fun _ => .nothing) "x = 1\r\nprint(x)\rprint(y)".toText ha rfl .input
  have hr := hrun hnumeric
  obtain rfl := Except.ok.inj hr
  cases htells with
  | success hsuccess => exact nomatch congrArg Report.error hsuccess
  | @failure f rendered hfailure hrendered hexit hstdout hstderr =>
    obtain rfl := Json.str.inj hrendered
    obtain rfl := Option.some.inj (congrArg Report.error hfailure)
    obtain ⟨exit, stdout, stderr⟩ := outcome
    obtain rfl : exit = 1 := hexit
    obtain rfl : stdout = [] := hstdout
    obtain rfl : stderr = _ := hstderr
    exact ⟨_, _, hr, rfl, hcommand, rfl⟩

end CommandLine
end LineScript
