import LineScript.Proofs.Program.Run
import LineScript.Proofs.Run.Settings

/-! Runs under tighter and looser limits. The two go on in the same state until the tighter limits end
    one of them: a line does the same under both, or it runs into one of the tighter limits. -/

namespace LineScript

/-- One set of limits is tighter than another when each of its limits is. -/
instance : LE Limits :=
  ⟨fun l m => l.maxSteps ≤ m.maxSteps ∧ l.maxOutput ≤ m.maxOutput ∧ l.maxFactorial ≤ m.maxFactorial⟩

/-- The causes with which limits end a run. -/
def Limits.causes (l : Limits) : List Cause :=
  [.naming .stepLimit l.maxSteps, .naming .outputLimit l.maxOutput, .naming .factorialTooLarge l.maxFactorial]

/-- Each of the limits has few enough digits to be named in a message. -/
structure Limits.Writable (l : Limits) : Prop where
  steps : Decimal.isWritable l.maxSteps = true
  output : Decimal.isWritable l.maxOutput = true
  factorial : Decimal.isWritable l.maxFactorial = true

variable {l m : Limits}

/-- Such limits are named by the causes. -/
theorem Limits.Writable.causes (h : l.Writable) :
    l.causes = [.stepLimit l.maxSteps, .outputLimit l.maxOutput, .factorialTooLarge l.maxFactorial] := by
  rw [Limits.causes, Cause.naming_of_isWritable h.steps, Cause.naming_of_isWritable h.output,
    Cause.naming_of_isWritable h.factorial]

section

variable [Host]

/-! ### One line -/

theorem Builtin.callFactorial_tighter {a b : Int} (h : a ≤ b) (store : Store) (argument : Text) :
    callFactorial a store argument = callFactorial b store argument ∨
      callFactorial a store argument = .error (.naming .factorialTooLarge a) := by
  unfold callFactorial
  cases evaluate store argument with
  | error cause => exact Or.inl rfl
  | ok v =>
    cases v with
    | integer n =>
      by_cases hn : a < n
      · exact Or.inr (if_pos hn)
      · have hb : ¬b < n := by omega
        simp only [bind, Except.bind, hn, hb, ↓reduceIte, true_or]
    | float x => exact Or.inl rfl
    | boolean b => exact Or.inl rfl
    | string t => exact Or.inl rfl

theorem Builtin.call_tighter {a b : Int} (h : a ≤ b) (store : Store) (line : Text) :
    call a store line = call b store line ∨ call a store line = .error (.naming .factorialTooLarge a) := by
  unfold call
  cases called? line with
  | none => exact Or.inl rfl
  | some f =>
    cases hargs : f.arguments line with
    | error cause =>
      left
      simp only [hargs, bind, Except.bind]
    | ok argument =>
      simp only [hargs, bind, Except.bind]
      cases f with
      | factorial => exact callFactorial_tighter h store argument
      | greet => exact Or.inl rfl
      | add => exact Or.inl rfl

/-- The limit on factorials is the only one that a statement knows. -/
theorem Statement.run_tighter {a b : Int} (h : a ≤ b) (store : Store) (line : Text) :
    Statement.run a store line = Statement.run b store line ∨
      Statement.run a store line = .error (.naming .factorialTooLarge a) := by
  unfold Statement.run
  cases ofLine line with
  | call =>
    rcases Builtin.call_tighter h store line with hc | hc
    · exact Or.inl (by simp only [runCall, hc])
    · refine Or.inr ?_
      simp only [runCall, hc]
      rfl
  | print | declaration | assignment | other => exact Or.inl rfl

namespace Program

theorem State.step_tighter (h : l ≤ m) (s : State) (line : Text) :
    s.step l line = s.step m line ∨ ∃ cause ∈ l.causes, s.step l line = .error cause := by
  obtain ⟨hsteps, houtput, hfactorial⟩ := h
  rcases s.step_cases l line with ⟨effect, t, hok, hstep⟩ | ⟨-, he⟩ | ⟨hin, hmemory, he⟩ |
      ⟨hin, hholds, cause, hrun, he⟩ | ⟨-, -, -, -, -, -, he⟩
  · -- A line that the tighter limits let pass is within the looser ones, too.
    left
    have hrun : Statement.run m.maxFactorial s.store line = .ok effect := by
      rcases Statement.run_tighter hfactorial s.store line with hsame | hlimit
      · rw [← hsame, hstep.runs]
      · rw [hstep.runs] at hlimit
        cases hlimit
    rw [hok]
    rcases s.step_cases m line with ⟨effect', t', hok', hstep'⟩ | ⟨hout, -⟩ | ⟨-, hmemory, -⟩ |
        ⟨-, -, cause, hrun', -⟩ | ⟨-, -, effect', hrun', hne, hout, -⟩
    · obtain rfl := Except.ok.inj (hrun.symm.trans hstep'.runs)
      rw [hok', hstep.unique hstep']
    · have := hstep.within
      omega
    · exact Bool.noConfusion (hstep.holds.symm.trans hmemory)
    · rw [hrun] at hrun'
      cases hrun'
    · obtain rfl := Except.ok.inj (hrun.symm.trans hrun')
      rcases hstep.shown with ⟨hnil, -⟩ | ⟨-, hchars, hle, -⟩
      · exact absurd hnil hne
      · rw [hchars] at hle
        omega
  · exact Or.inr ⟨_, by simp [Limits.causes], he⟩
  · -- The memory gives out under both.
    left
    have hnot : ¬m.maxSteps < (s.steps : Int) + 1 := by omega
    rw [he, State.step, if_neg hnot, if_pos hmemory]
  · rcases Statement.run_tighter hfactorial s.store line with hsame | hlimit
    · left
      rw [hsame] at hrun
      have hnot : ¬m.maxSteps < (s.steps : Int) + 1 := by omega
      rw [he, State.step, if_neg hnot, hholds, hrun]
      rfl
    · rw [hrun] at hlimit
      exact Or.inr ⟨cause, by simp [Limits.causes, Except.error.inj hlimit], he⟩
  · exact Or.inr ⟨_, by simp [Limits.causes], he⟩

/-! ### Many lines -/

/-- The run under the tighter limits is that under the looser ones, or one of its limits ends it, at
    the latest where the other run stops. -/
theorem runLines_tighter (h : l ≤ m) (number : Nat) (s : State) (ls : List Text) :
    runLines l number s ls = runLines m number s ls ∨
      ∃ stop, runLines l number s ls = .error stop ∧ stop.cause ∈ l.causes ∧
        ∀ stop', runLines m number s ls = .error stop' → stop.line ≤ stop'.line := by
  induction ls generalizing number s with
  | nil => exact Or.inl rfl
  | cons raw ls ih =>
    cases hsk : isSkipped (Text.trim raw) with
    | true =>
      rw [runLines_cons_ok (State.next_skipped hsk), runLines_cons_ok (State.next_skipped hsk)]
      exact ih (number + 1) s
    | false =>
      rcases s.step_tighter h (Text.trim raw) with hsame | ⟨cause, hcause, he⟩
      · have hnext : s.next l number raw = s.next m number raw := by
          rw [State.next_dispatched hsk, State.next_dispatched hsk, hsame]
        cases hn : s.next m number raw with
        | error stop =>
          rw [runLines_cons_error hn, runLines_cons_error (hnext.trans hn)]
          exact Or.inl rfl
        | ok t =>
          rw [runLines_cons_ok hn, runLines_cons_ok (hnext.trans hn)]
          exact ih (number + 1) t
      · have hn : s.next l number raw = .error ⟨cause, number, Text.trim raw⟩ := by
          rw [State.next_dispatched hsk, he]
          rfl
        exact Or.inr ⟨_, runLines_cons_error hn, hcause, fun _ h' => runLines_error_line h'⟩

end Program

/-- Of two runs that ask for no worker, the one under tighter limits gives the same report, or it is
    ended by one of its limits at a line not after the one where the other run stops. The limit is named if
    it can be written. In particular the two reports are the same when the first is a success. -/
theorem run_tighter_limits {d : Defaults} (serve : Worker.Request → Except Fault Worker.Exchange)
    {tight loose : Settings} (hl : tight.limits d = .ok l) (hm : loose.limits d = .ok m) (h : l ≤ m)
    (hw : tight.usesWorker = false) (hw' : loose.usesWorker = false) (code : Text) :
    ∃ r r', run d serve tight code = .ok r ∧ run d serve loose code = .ok r' ∧
      (r = r' ∨ ∃ stop, r = .failure (.ofStop stop) ∧ stop.cause ∈ l.causes ∧
        (l.Writable → stop.cause ∈
          [.stepLimit l.maxSteps, .outputLimit l.maxOutput, .factorialTooLarge l.maxFactorial]) ∧
        ∀ f, r'.error = some f → ∃ k : Nat, f.line = .int k ∧ stop.line ≤ k) ∧
      (r.ok = true → r = r') := by
  refine ⟨_, _, run_here hl hw code, run_here hm hw' code, ?_⟩
  have hcases : Report.ofProgram l code = Report.ofProgram m code ∨
      ∃ stop, Report.ofProgram l code = .failure (.ofStop stop) ∧ stop.cause ∈ l.causes ∧
        ∀ f, (Report.ofProgram m code).error = some f → ∃ k : Nat, f.line = .int k ∧ stop.line ≤ k := by
    rcases Program.runLines_tighter h 1 .initial (Text.lines code) with hsame | ⟨stop, he, hcause, hfirst⟩
    · left
      simp only [Report.ofProgram, Program.execute, hsame]
    · refine Or.inr ⟨stop, by simp only [Report.ofProgram, Program.execute_error_iff.mpr he], hcause, ?_⟩
      intro f hf
      cases hloose : Program.execute m code with
      | ok shown => simp [Report.ofProgram, hloose, Report.success] at hf
      | error stop' =>
        simp only [Report.ofProgram, hloose, Report.failure, Option.some.injEq] at hf
        exact ⟨stop'.line, by rw [← hf]; rfl, hfirst stop' (Program.execute_error_iff.mp hloose)⟩
  refine ⟨hcases.imp id ?_, fun hok => ?_⟩
  · rintro ⟨stop, hfail, hcause, hfirst⟩
    exact ⟨stop, hfail, hcause, fun hwritable => hwritable.causes ▸ hcause, hfirst⟩
  · rcases hcases with hsame | ⟨stop, hfail, -, -⟩
    · exact hsame
    · rw [hfail] at hok
      cases hok

end

/-- Two lines are too many for one step, and not for the standard limits. -/
theorem run_tighter_limits_one_step :
    ∃ stop r', run .standard Worker.serve [(Settings.maxStepsKey, .int 1)] "print(1)\nprint(2)".toText =
        .ok (.failure (.ofStop stop)) ∧
      stop.cause ∈ [.stepLimit 1, .outputLimit 5000, .factorialTooLarge 20] ∧
      run .standard Worker.serve [] "print(1)\nprint(2)".toText = .ok r' ∧ r'.ok = true := by
  have htight : Settings.limits .standard [(Settings.maxStepsKey, .int 1)] = .ok ⟨1, 5000, 20⟩ := rfl
  have hloose : Settings.limits .standard [] = .ok .default := rfl
  have hle : (⟨1, 5000, 20⟩ : Limits) ≤ .default := ⟨by decide, by decide, by decide⟩
  obtain ⟨r, r', hr, hr', hcases, -⟩ :=
    run_tighter_limits Worker.serve htight hloose hle rfl rfl "print(1)\nprint(2)".toText
  have hfails : r.ok = false := by
    obtain rfl := Except.ok.inj hr
    rfl
  have hsucceeds : r'.ok = true := by
    obtain rfl := Except.ok.inj hr'
    rfl
  rcases hcases with rfl | ⟨stop, rfl, -, hcause, -⟩
  · exact Bool.noConfusion (hfails.symm.trans hsucceeds)
  · exact ⟨stop, r', hr, hcause ⟨by decide, by decide, by decide⟩, hr', hsucceeds⟩

/-- Where no step is allowed, the first line ends the run. -/
theorem Program.execute_no_step {steps output factorial : Int} (h : steps < 1) :
    execute ⟨steps, output, factorial⟩ "print(1)".toText = .error ⟨.naming .stepLimit steps, 1, "print(1)".toText⟩ := by
  have hlines : Text.lines "print(1)".toText = ["print(1)".toText] := by decide
  have htrim : Text.trim "print(1)".toText = "print(1)".toText := by decide
  have hstep : State.initial.step ⟨steps, output, factorial⟩ "print(1)".toText = .error (.naming .stepLimit steps) :=
    if_pos h
  rw [execute_error_iff, hlines]
  refine runLines_cons_error ?_
  rw [State.next_dispatched (by decide), htrim, hstep]
  rfl

/-- A limit of too many digits ends the run without being named. -/
theorem run_tighter_limit_unnamed :
    ∃ (l : Limits) (stop : Program.Stop) (r' : Report),
      Settings.limits .standard [(Settings.maxStepsKey, .int (-(10 ^ 5000)))] = .ok l ∧ l ≤ .default ∧
      run .standard Worker.serve [(Settings.maxStepsKey, .int (-(10 ^ 5000)))] "print(1)".toText =
        .ok (.failure (.ofStop stop)) ∧
      run .standard Worker.serve [] "print(1)".toText = .ok r' ∧ r'.ok = true ∧
      stop = ⟨.unwritable, 1, "print(1)".toText⟩ ∧
      stop.cause ∉ [.stepLimit l.maxSteps, .outputLimit l.maxOutput, .factorialTooLarge l.maxFactorial] := by
  have hlimits (n : Int) : Settings.limits .standard [(Settings.maxStepsKey, .int n)] = .ok ⟨n, 5000, 20⟩ := rfl
  have hother (a b c : Int) : Cause.unwritable ∉ [.stepLimit a, .outputLimit b, .factorialTooLarge c] := by simp
  have hbelow : -(10 ^ 5000) < (1 : Int) := Decimal.neg_pow_lt_one 5000
  have hle : (⟨-(10 ^ 5000), 5000, 20⟩ : Limits) ≤ .default :=
    ⟨Int.le_trans (Int.le_of_lt hbelow) (by decide), by decide, by decide⟩
  have hunnamed : Decimal.isWritable (-(10 ^ 5000)) = false := Decimal.isWritable_neg_pow (by decide)
  have hstops : Program.execute ⟨-(10 ^ 5000), 5000, 20⟩ "print(1)".toText =
      .error ⟨.unwritable, 1, "print(1)".toText⟩ := by
    rw [Program.execute_no_step hbelow, Cause.naming_of_not_isWritable hunnamed]
  refine ⟨_, _, _, hlimits _, hle, ?_, rfl, rfl, rfl, hother _ _ _⟩
  rw [run_here (hlimits _) rfl, Report.ofProgram, hstops]

end LineScript
