import LineScript.Proofs.Program.Counts
import LineScript.Proofs.Run.Settings
import LineScript.Proofs.Text.Pieces

/-! The arrangement of a program. A run is decided by the statements of the program, which are its trimmed lines
    without those passed over: how lines end, how far they are indented and what stands between them only moves the
    number of the line that is blamed. For the run over the lines keeps step with the run over the statements alone,
    which executes every line it comes to. -/

namespace LineScript

namespace Program

variable {raw : Text} {ls : List Text}

/-- The lines that are executed, trimmed. -/
def statements (ls : List Text) : List Text := (dispatched ls).map Text.trim

/-- The statement number `j` of some lines stands in the line at `index`, both counted from zero. -/
structure StandsAt (ls : List Text) (j : Nat) (line : Text) (index : Nat) : Prop where
  found : (ls[index]?).map Text.trim = some line
  executed : isSkipped line = false
  before : (dispatched (ls.take index)).length = j

theorem statements_skipped (h : isSkipped (Text.trim raw) = true) : statements (raw :: ls) = statements ls := by
  rw [statements, dispatched_skipped h, statements]

theorem statements_executed (h : isSkipped (Text.trim raw) = false) :
    statements (raw :: ls) = Text.trim raw :: statements ls := by
  rw [statements, dispatched_executed h, List.map_cons, statements]

theorem StandsAt.skipped {j index : Nat} {line : Text} (h : StandsAt ls j line index)
    (hraw : isSkipped (Text.trim raw) = true) : StandsAt (raw :: ls) j line (index + 1) where
  found := h.found
  executed := h.executed
  before := by rw [List.take_succ_cons, dispatched_skipped hraw, h.before]

theorem StandsAt.executed_before {j index : Nat} {line : Text} (h : StandsAt ls j line index)
    (hraw : isSkipped (Text.trim raw) = false) : StandsAt (raw :: ls) (j + 1) line (index + 1) where
  found := h.found
  executed := h.executed
  before := by rw [List.take_succ_cons, dispatched_executed hraw, List.length_cons, h.before]

/-! ### The run over the statements -/

/-- What one line does is decided by its statement, wherever that stands. -/
theorem State.next_executed (limits : Limits) (number place : Nat) (s : State) (h : isSkipped (Text.trim raw) = false) :
    (∃ t, s.next limits number raw = .ok t ∧ s.next limits place (Text.trim raw) = .ok t) ∨
      ∃ cause, s.next limits number raw = .error ⟨cause, number, Text.trim raw⟩ ∧
        s.next limits place (Text.trim raw) = .error ⟨cause, place, Text.trim raw⟩ := by
  have htrim : isSkipped (Text.trim (Text.trim raw)) = false := by rwa [Text.trim_trim]
  rw [State.next_dispatched h, State.next_dispatched htrim, Text.trim_trim]
  cases s.step limits (Text.trim raw) with
  | ok t => exact Or.inl ⟨t, rfl, rfl⟩
  | error cause => exact Or.inr ⟨cause, rfl, rfl⟩

/-- The run over some lines ends as the run over their statements does. If it stops, it blames the line in which the
    statement stands that stops the other. -/
theorem runLines_statements (limits : Limits) (number place : Nat) (s : State) (ls : List Text) :
    (∃ t, runLines limits place s (statements ls) = .ok t ∧ runLines limits number s ls = .ok t) ∨
      ∃ cause line j index, runLines limits place s (statements ls) = .error ⟨cause, place + j, line⟩ ∧
        runLines limits number s ls = .error ⟨cause, number + index, line⟩ ∧ StandsAt ls j line index := by
  induction ls generalizing number place s with
  | nil => exact Or.inl ⟨s, rfl, rfl⟩
  | cons raw ls ih =>
    cases hsk : isSkipped (Text.trim raw) with
    | true =>
      rw [statements_skipped hsk, runLines_cons_ok (State.next_skipped hsk)]
      rcases ih (number + 1) place s with hok | ⟨cause, line, j, index, hstatements, hlines, hstands⟩
      · exact Or.inl hok
      · refine Or.inr ⟨cause, line, j, index + 1, hstatements, ?_, hstands.skipped hsk⟩
        rw [hlines, Nat.add_assoc, Nat.add_comm 1]
    | false =>
      rw [statements_executed hsk]
      rcases State.next_executed limits number place s hsk with
        ⟨u, hline, hstatement⟩ | ⟨cause, hline, hstatement⟩
      · rw [runLines_cons_ok hline, runLines_cons_ok hstatement]
        rcases ih (number + 1) (place + 1) u with hok | ⟨cause, line, j, index, hstatements, hlines, hstands⟩
        · exact Or.inl hok
        · refine Or.inr ⟨cause, line, j + 1, index + 1, ?_, ?_, hstands.executed_before hsk⟩
          · rw [hstatements, Nat.add_assoc, Nat.add_comm 1]
          · rw [hlines, Nat.add_assoc, Nat.add_comm 1]
      · rw [runLines_cons_error hline, runLines_cons_error hstatement]
        exact Or.inr ⟨cause, Text.trim raw, 0, 0, rfl, rfl, rfl, hsk, rfl⟩

/-- Two programs with the same statements show the same, or they stop at the same statement for the same cause. -/
theorem execute_same_statements {code code' : Text} (limits : Limits)
    (same : statements (Text.lines code) = statements (Text.lines code')) :
    (∃ shown, execute limits code = .ok shown ∧ execute limits code' = .ok shown) ∨
      ∃ cause line j index index', execute limits code = .error ⟨cause, index + 1, line⟩ ∧
        execute limits code' = .error ⟨cause, index' + 1, line⟩ ∧
        StandsAt (Text.lines code) j line index ∧ StandsAt (Text.lines code') j line index' := by
  have h := runLines_statements limits 1 1 .initial (Text.lines code)
  have h' := runLines_statements limits 1 1 .initial (Text.lines code')
  rw [← same] at h'
  rcases h with ⟨t, ht, hcode⟩ | ⟨cause, line, j, index, hstop, hcode, hstands⟩
  · rcases h' with ⟨t', ht', hcode'⟩ | ⟨_, _, _, _, hstop', -, -⟩
    · obtain rfl := Except.ok.inj (ht.symm.trans ht')
      exact Or.inl ⟨_, execute_ok_iff.mpr ⟨t, hcode, rfl⟩, execute_ok_iff.mpr ⟨t, hcode', rfl⟩⟩
    · rw [ht] at hstop'
      cases hstop'
  · rcases h' with ⟨t', ht', -⟩ | ⟨cause', line', j', index', hstop', hcode', hstands'⟩
    · rw [hstop] at ht'
      cases ht'
    · obtain ⟨rfl, hj, rfl⟩ := Stop.mk.inj (Except.error.inj (hstop.symm.trans hstop'))
      obtain rfl : j = j' := Nat.add_left_cancel hj
      rw [Nat.add_comm] at hcode hcode'
      exact Or.inr ⟨cause, line, j, index, index', execute_error_iff.mpr hcode, execute_error_iff.mpr hcode', hstands,
        hstands'⟩

end Program

/-- Two runs that ask for no worker and have the same limits agree when their programs have the same statements: both
    succeed, with the same output, or both fail at the same statement, with errors of the same kind, message and line
    text, and each of them names the line of its own program in which that statement stands. -/
theorem run_same_statements {d : Defaults} (serve : Worker.Request → Except Fault Worker.Exchange)
    {settings settings' : Settings} {limits : Limits} (hl : settings.limits d = .ok limits)
    (hl' : settings'.limits d = .ok limits) (hw : settings.usesWorker = false) (hw' : settings'.usesWorker = false)
    {code code' : Text} (same : Program.statements (Text.lines code) = Program.statements (Text.lines code')) :
    ∃ r r', run d serve settings code = .ok r ∧ run d serve settings' code' = .ok r' ∧
      ((r.error = none ∧ r'.error = none ∧ r.output = r'.output) ∨
        ∃ f f' j line index index', r = .failure f ∧ r' = .failure f' ∧ f.kind = f'.kind ∧ f.message = f'.message ∧
          f.lineText = .str line ∧ f'.lineText = .str line ∧
          Program.StandsAt (Text.lines code) j line index ∧ f.line = .int (index + 1 : Nat) ∧
          Program.StandsAt (Text.lines code') j line index' ∧ f'.line = .int (index' + 1 : Nat)) := by
  refine ⟨_, _, run_here hl hw code, run_here hl' hw' code', ?_⟩
  rcases Program.execute_same_statements limits same with
    ⟨shown, h, h'⟩ | ⟨cause, line, j, index, index', h, h', hstands, hstands'⟩
  · left
    simp only [Report.ofProgram, h, h', Report.success, and_self]
  · right
    refine ⟨.ofStop ⟨cause, index + 1, line⟩, .ofStop ⟨cause, index' + 1, line⟩, j, line, index, index', ?_, ?_, rfl, rfl,
      rfl, rfl, hstands, rfl, hstands', rfl⟩
    · simp only [Report.ofProgram, h]
    · simp only [Report.ofProgram, h']

/-- The second program has other line ends, indents its lines, and has comments, an import and blank lines between
    them. -/
theorem run_same_statements_rearranged :
    ∃ f f', run .standard Worker.serve [] "let x = 1\nprint(x)\nprint(y)".toText = .ok (.failure f) ∧
      run .standard Worker.serve []
        "// x\r\n\tlet x = 1 \u2028import Y\r\r\n  print(x)\x0b// y\n\u3000print(y)\r".toText = .ok (.failure f') ∧
      f.message = f'.message ∧ f.line = .int 3 ∧ f'.line = .int 7 := by
  have hlimits : Settings.limits .standard [] = .ok .default := rfl
  have same : Program.statements (Text.lines "let x = 1\nprint(x)\nprint(y)".toText) = Program.statements
      (Text.lines "// x\r\n\tlet x = 1 \u2028import Y\r\r\n  print(x)\x0b// y\n\u3000print(y)\r".toText) := by
    decide +kernel
  obtain ⟨r, r', hr, hr', hok | ⟨f, f', -, -, -, -, rfl, rfl, -, hmessage, -⟩⟩ :=
    run_same_statements Worker.serve hlimits hlimits rfl rfl same
  · obtain rfl := Except.ok.inj hr
    cases hok.1
  · refine ⟨f, f', hr, hr', hmessage, ?_, ?_⟩
    · injection hr with hr
      obtain rfl := Option.some.inj (congrArg Report.error hr)
      rfl
    · injection hr' with hr'
      obtain rfl := Option.some.inj (congrArg Report.error hr')
      rfl

end LineScript
