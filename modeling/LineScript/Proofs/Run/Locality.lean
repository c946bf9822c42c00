import LineScript.Proofs.Program.Run
import LineScript.Proofs.Run.Settings
import LineScript.Proofs.Text.Lines

/-! Where a run ends. A run fails at one line, which its error names, and neither the lines after it nor
    the way the program is written have a say in the error; the lines before it make a program that
    succeeds. A run that succeeds extends what the programs made of its first lines show. -/

namespace LineScript

/-- Whether a cause arises below the language rather than as an error of it. -/
def Cause.isForeign : Cause → Bool
  | .longInteger _ | .unwritable | .unencodable _ | .nullCharacter | .integerBeyondFloat | .tooDeep | .outOfMemory
  | .misplaced => true
  | _ => false

theorem Cause.kind_of_isForeign {cause : Cause} (h : cause.isForeign = true) : cause.kind = .execution := by
  cases cause <;> first | rfl | cases h

namespace Program

variable {limits : Limits} {code code' : Text} {shown : List Text} {stop : Stop}

/-- What a failure says about the program it belongs to: line `k`, with the given text, is executed after
    the lines before it were run well, and fails there for the given cause. -/
structure Blames [Host] (limits : Limits) (code : Text) (f : Failure) (k : Nat) (raw : Text) (cause : Cause) :
    Prop where
  first : 1 ≤ k
  last : k ≤ (Text.lines code).length
  found : (Text.lines code)[k - 1]? = some raw
  dispatched : isSkipped (Text.trim raw) = false
  raised : ∃ s, runLines limits 1 .initial ((Text.lines code).take (k - 1)) = .ok s ∧
    s.step limits (Text.trim raw) = .error cause
  line : f.line = .int k
  lineText : f.lineText = .str (Text.trim raw)
  message : f.message = "Error in line '".toText ++ Text.trim raw ++ "': ".toText ++ cause.message
  kind : f.kind = cause.kind
  foreign : cause.isForeign = true → f.kind = .execution

/-- The programs made of the first lines of one that succeeds show the first texts of it. -/
theorem execute_of_take [Host] (h : execute limits code = .ok shown) {k : Nat}
    (hk : Text.lines code' = (Text.lines code).take k) :
    ∃ shown', execute limits code' = .ok shown' ∧ shown' <+: shown := by
  obtain ⟨t, ht, rfl⟩ := execute_ok_iff.mp h
  obtain ⟨u, hu, hrest⟩ := runLines_take_ok ht k
  exact ⟨_, execute_ok_iff.mpr ⟨u, hk ▸ hu, rfl⟩, List.reverse_prefix.mpr (runLines_shown hrest)⟩

/-- A stopped run names its line, whose predecessors make a program that succeeds, and all programs that
    begin with these lines stop there in the same way. -/
theorem execute_error [Host] (h : execute limits code = .error stop) :
    ∃ k raw, Blames limits code (.ofStop stop) k raw stop.cause ∧
      (∀ code', Text.lines code' = (Text.lines code).take (k - 1) → ∃ shown, execute limits code' = .ok shown) ∧
      ∀ code', (Text.lines code').take k = (Text.lines code).take k → execute limits code' = .error stop := by
  obtain ⟨index, raw, state, hat⟩ := runLines_error (execute_error_iff.mp h)
  have hlt : index < (Text.lines code).length := (List.getElem?_eq_some_iff.mp hat.found).1
  have hline : ((stop.line : Nat) : Int) = ((index + 1 : Nat) : Int) := by rw [hat.line, Nat.add_comm]
  refine ⟨index + 1, raw, ?_, fun code' hk => ?_, fun code' hk => ?_⟩
  · exact {
      first := Nat.le_add_left 1 index
      last := hlt
      found := hat.found
      dispatched := hat.dispatched
      raised := ⟨state, hat.before, hat.fails⟩
      line := congrArg Json.int hline
      lineText := congrArg Json.str hat.text
      message := by rw [← hat.text]; rfl
      kind := rfl
      foreign := Cause.kind_of_isForeign }
  · exact ⟨_, execute_ok_iff.mpr ⟨state, hk ▸ hat.before, rfl⟩⟩
  · exact execute_error_iff.mpr (hat.stops hk)

end Program

/-- A run that asks for no worker either succeeds with an output, and then so does every program made of
    first lines of it, or fails at a line of the program, and then every program that agrees with it up
    to that line fails just so, while the lines before make a program that succeeds. -/
theorem run_fails_at_one_line [Host] {d : Defaults} (serve : Worker.Request → Except Fault Worker.Exchange)
    {settings : Settings} {limits : Limits} (hl : settings.limits d = .ok limits)
    (hw : settings.usesWorker = false) (code : Text) :
    (∀ k, ∃ code', Text.lines code' = (Text.lines code).take k) ∧
    ∃ r, run d serve settings code = .ok r ∧
      ((r.error = none ∧ ∃ shown, Program.execute limits code = .ok shown ∧
          r.output = .str (Program.output shown) ∧ Program.output shown ≠ [] ∧
          ∀ k code', Text.lines code' = (Text.lines code).take k →
            ∃ shown', Program.execute limits code' = .ok shown' ∧ shown' <+: shown ∧
              run d serve settings code' = .ok (.success (.str (Program.output shown')))) ∨
        (r.output = .null ∧ ∃ f k raw cause, r.error = some f ∧ Program.Blames limits code f k raw cause ∧
          (∀ code', Text.lines code' = (Text.lines code).take (k - 1) →
            ∃ shown, run d serve settings code' = .ok (.success (.str (Program.output shown)))) ∧
          ∀ code', (Text.lines code').take k = (Text.lines code).take k →
            run d serve settings code' = .ok (.failure f))) := by
  refine ⟨fun k => ⟨_, Text.lines_ofLines_take code k⟩, .ofProgram limits code, run_here hl hw code, ?_⟩
  have hrun : ∀ code', run d serve settings code' = .ok (.ofProgram limits code') := run_here hl hw
  cases he : Program.execute limits code with
  | ok shown =>
    refine Or.inl ⟨by simp [Report.ofProgram, he, Report.success], shown, rfl,
      by simp [Report.ofProgram, he, Report.success], Program.output_ne_nil shown, fun k code' hk => ?_⟩
    obtain ⟨shown', hs, hpre⟩ := Program.execute_of_take he hk
    exact ⟨shown', hs, hpre, by rw [hrun, Report.ofProgram, hs]⟩
  | error stop =>
    obtain ⟨k, raw, hblames, hbefore, hafter⟩ := Program.execute_error he
    refine Or.inr ⟨by simp [Report.ofProgram, he, Report.failure], .ofStop stop, k, raw, stop.cause,
      by simp [Report.ofProgram, he, Report.failure], hblames, fun code' hk => ?_, fun code' hk => ?_⟩
    · obtain ⟨shown, hs⟩ := hbefore code' hk
      exact ⟨shown, by rw [hrun, Report.ofProgram, hs]⟩
    · rw [hrun, Report.ofProgram, hafter code' hk]

/-- The third line, where a name is not bound, ends every program that begins with these three. -/
theorem run_fails_at_unbound_name :
    ∃ f : Failure, f.line = .int 3 ∧ f.lineText = .str "print(y)".toText ∧
      ∀ code', (Text.lines code').take 3 = ["let x = 1".toText, "// y".toText, "print(y)".toText] →
        run .standard Worker.serve [] code' = .ok (.failure f) := by
  have hlimits : Settings.limits .standard [] = .ok .default := rfl
  have hlines : (Text.lines "let x = 1\n// y\nprint(y)\nprint(x)".toText).take 3 =
      ["let x = 1".toText, "// y".toText, "print(y)".toText] := rfl
  obtain ⟨-, r, hr, ⟨hnone, -⟩ | ⟨-, f, k, raw, cause, hf, hblames, -, hafter⟩⟩ :=
    run_fails_at_one_line Worker.serve hlimits rfl "let x = 1\n// y\nprint(y)\nprint(x)".toText
  · obtain rfl := Except.ok.inj hr
    cases hnone
  · obtain rfl := Except.ok.inj hr
    obtain rfl := Option.some.inj hf
    obtain rfl : 3 = k := Int.ofNat.inj (Json.int.inj hblames.line)
    exact ⟨_, rfl, rfl, fun code' hcode => hafter code' (hcode.trans hlines.symm)⟩

end LineScript
