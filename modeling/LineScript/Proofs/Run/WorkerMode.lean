import LineScript.Proofs.Program.Alphabet
import LineScript.Proofs.Run.Memory
import LineScript.Proofs.Run.WorkerReply
import LineScript.Proofs.Text.Lines

/-! A run in a worker and the same run here. Of a program without surrogates every text that a run reports is
    without surrogates, so JSON carries the report as it is. Both runs come to the same, unless one of the two
    processes gives up at a line: the memory of a worker is bounded, and so is the nesting in either. -/

namespace LineScript

/-- No surrogate. -/
def NoSurrogate (c : CodePoint) : Prop := c.isSurrogate = false

theorem plain_noSurrogate : Plain NoSurrogate := fun _ _ _ => rfl

theorem joinPairs_of_over {t : Text} (h : Text.Over NoSurrogate t) : Text.joinPairs t = t :=
  Text.joinPairs_of_isScalar (Text.isScalar_iff.mpr h)

theorem over_output {shown : List Text} (h : ∀ t ∈ shown, Text.Over NoSurrogate t) :
    Text.Over NoSurrogate (Program.output shown) := by
  unfold Program.output
  split
  · exact Text.isScalar_iff.mp (Text.isScalar_toText _)
  · intro c hc
    obtain ⟨t, ht, hc⟩ := List.mem_flatMap.mp hc
    rcases List.mem_append.mp hc with hc | hc
    · exact h t ht c hc
    · exact Text.isScalar_iff.mp (Text.isScalar_toText _) c hc

/-- JSON carries the report of a program without surrogates as it is. -/
theorem Report.joined_ofProgram [Host] {code : Text} (hcode : Text.isScalar code = true) (limits : Limits) :
    (ofProgram limits code).joined = ofProgram limits code := by
  have hlines : ∀ l ∈ Text.lines code, Text.Over NoSurrogate l := fun l hl c hc =>
    Text.isScalar_iff.mp hcode c (Text.mem_of_mem_lines hl hc).1
  unfold ofProgram
  split
  · next shown hrun =>
    have houtput := over_output (Program.execute_over plain_noSurrogate hlines hrun)
    show success (.str (Text.joinPairs _)) = _
    rw [joinPairs_of_over houtput]
  · next stop hrun =>
    obtain ⟨htext, hcause⟩ := Program.execute_error_over plain_noSurrogate hlines hrun
    have hmessage : Text.Over NoSurrogate (Failure.ofStop stop).message :=
      (((Text.over_toText plain_noSurrogate (by decide)).append htext).append
        (Text.over_toText plain_noSurrogate (by decide))).append hcause
    show failure ⟨_, Text.joinPairs (Failure.ofStop stop).message, .int stop.line, .str (Text.joinPairs stop.text)⟩ = _
    rw [joinPairs_of_over hmessage, joinPairs_of_over htext]
    rfl

/-- A process that gives up at a line of a program blames it. -/
theorem Program.GivesUp.ofProgram {host : Host} {limits : Limits} {code raw : Text} {state : State} {cause : Cause}
    {index : Nat} (h : GivesUp host limits state (Text.trim raw) cause) (found : (Text.lines code)[index]? = some raw)
    (before : @runLines host limits 1 .initial ((Text.lines code).take index) = .ok state)
    (dispatched : isSkipped (Text.trim raw) = false) :
    @Report.ofProgram host limits code = .failure (.ofStop ⟨cause, 1 + index, Text.trim raw⟩) := by
  have hstops := @execute_error_iff _ _ host _ |>.mpr (h.stops found before dispatched)
  simp only [Report.ofProgram, hstops]

/-- Two processes report the same of a program, unless they part at one of its lines. -/
theorem Report.ofProgram_hosts (here there : Host) (limits : Limits) (code : Text) :
    @ofProgram here limits code = @ofProgram there limits code ∨
      ∃ index raw state, Program.PartAt here there limits 1 .initial (Text.lines code) index raw state := by
  refine (Program.runLines_hosts here there limits 1 .initial (Text.lines code)).imp (fun h => ?_) id
  simp only [ofProgram, Program.execute, h]

/-- A run that is left to a worker comes to what its program comes to in the worker's process. -/
theorem run_genuine {worker : Host} [Host] {d : Defaults} {serve : Worker.Request → Except Fault Worker.Exchange}
    {settings : Settings} {code : Text} {limits : Limits} {timeout : Float} {e : Worker.Exchange}
    (hcode : Text.isScalar code = true) (hlimits : settings.limits d = .ok limits)
    (htimeout : settings.timeout = .ok timeout) (hasked : settings.usesWorker = true)
    (hserve : serve ⟨code, some timeout, .obj limits.toSettings⟩ = .ok e)
    (hgenuine : e.Genuine worker ⟨code, some timeout, .obj limits.toSettings⟩) :
    run d serve settings code = .ok (@Report.ofProgram worker limits code) := by
  rw [run_worker hlimits htimeout hasked, hserve]
  show Worker.ofExchange e = _
  rw [Worker.ofExchange_genuine hgenuine, Text.joinPairs_of_isScalar hcode, @Report.joined_ofProgram worker _ hcode]

/-- A run that is left to a worker comes to the same as the run here: the same output, or the same error of the same
    line. Only where one of the two processes gives up at a line that both reach in the same state may they differ;
    then that line is blamed in it, for the memory or for the depth. -/
theorem run_in_worker_agrees {worker : Host} [here : Host] {d : Defaults}
    (serve : Worker.Request → Except Fault Worker.Exchange)
    {settings : Settings} {code : Text} {limits : Limits} {timeout : Float} {asked : Json} {e : Worker.Exchange}
    (hcode : Text.isScalar code = true) (hlimits : settings.limits d = .ok limits)
    (htimeout : settings.timeout = .ok timeout) (hasked : asked.truthy = true)
    (hserve : serve ⟨code, some timeout, .obj limits.toSettings⟩ = .ok e)
    (hgenuine : e.Genuine worker ⟨code, some timeout, .obj limits.toSettings⟩) :
    ∃ reply report,
      run d serve (Json.put Settings.workerKey asked settings) code = .ok reply ∧
      run d serve (settings.filter fun m => m.1 ≠ Settings.workerKey) code = .ok report ∧
      ((∃ t, t ≠ [] ∧ report = .success (.str t)) ∨
        ∃ kind message line text, report = .failure ⟨kind, message, .int line, .str text⟩) ∧
      (reply = report ∨
        ∃ index raw state, Program.PartAt worker here limits 1 .initial (Text.lines code) index raw state ∧
          ((∃ cause, Program.GivesUp worker limits state (Text.trim raw) cause ∧
              reply = .failure (.ofStop ⟨cause, 1 + index, Text.trim raw⟩)) ∨
            ∃ cause, Program.GivesUp here limits state (Text.trim raw) cause ∧
              report = .failure (.ofStop ⟨cause, 1 + index, Text.trim raw⟩))) := by
  have hput := Settings.agree_put asked settings
  have hfilter := Settings.agree_filter settings
  have hthere := run_genuine hcode ((hput.limits_eq d).trans hlimits) (hput.timeout_eq.trans htimeout)
    ((Settings.usesWorker_put asked settings).trans hasked) hserve hgenuine
  have hhere : run d serve (settings.filter fun m => m.1 ≠ Settings.workerKey) code = .ok (.ofProgram limits code) :=
    run_here ((hfilter.limits_eq d).trans hlimits) (Settings.usesWorker_filter settings) code
  refine ⟨_, _, hthere, hhere, ?_, ?_⟩
  · rcases Report.ofProgram_cases limits code with hok | ⟨kind, message, line, text, -, hfails⟩
    · exact Or.inl hok
    · exact Or.inr ⟨kind, message, line, text, hfails⟩
  · refine (Report.ofProgram_hosts worker here limits code).imp id fun ⟨index, raw, state, hpart⟩ => ?_
    refine ⟨index, raw, state, hpart, hpart.gives_up.imp ?_ ?_⟩
    · rintro ⟨cause, hup⟩
      exact ⟨cause, hup, hup.ofProgram hpart.found hpart.here_before hpart.dispatched⟩
    · rintro ⟨cause, hup⟩
      exact ⟨cause, hup, hup.ofProgram hpart.found hpart.there_before hpart.dispatched⟩

/-- A name that is not bound fails at its line in a worker and here. -/
theorem run_in_worker_agrees_unbound_name :
    ∃ (serve : Worker.Request → Except Fault Worker.Exchange) (f : Failure),
      f = ⟨.execution, "Error in line 'print(y)': Unknown expression: y".toText, .int 2, .str "print(y)".toText⟩ ∧
      run .standard serve [(Settings.workerKey, .bool true)] "let x = 1\nprint(y)".toText = .ok (.failure f) ∧
      run .standard serve [] "let x = 1\nprint(y)".toText = .ok (.failure f) := by
  have hlimits : Settings.limits .standard [] = .ok .default := rfl
  have hasked : (Json.bool true).truthy = true := rfl
  have hreply :
      (@Worker.replyTo Worker.host .default (Text.joinPairs "let x = 1\nprint(y)".toText)).writable = true := by
    decide +kernel
  obtain ⟨reply, report, hthere, hhere, -, hsame⟩ := run_in_worker_agrees (fun _ => .ok _) (by decide) hlimits rfl
    hasked rfl (Worker.genuine_replyTo Worker.host [] rfl hreply)
  have hreport : report = .failure ⟨.execution, "Error in line 'print(y)': Unknown expression: y".toText, .int 2,
      .str "print(y)".toText⟩ := Except.ok.inj (hhere.symm.trans rfl)
  have hworker : @Program.runLines Worker.host .default 1 .initial (Text.lines "let x = 1\nprint(y)".toText) =
      .error ⟨.unknownExpression "y".toText, 2, "print(y)".toText⟩ := rfl
  have hcaller : Program.runLines .default 1 .initial (Text.lines "let x = 1\nprint(y)".toText) =
      .error ⟨.unknownExpression "y".toText, 2, "print(y)".toText⟩ := rfl
  rcases hsame with rfl | ⟨_, _, _, hpart, -⟩
  · exact ⟨_, _, rfl, hreport ▸ hthere, hreport ▸ hhere⟩
  · obtain ⟨stop, hcause, hstop⟩ := hpart.stops
    rw [hworker, hcaller, or_self] at hstop
    obtain rfl := Except.error.inj hstop
    exact absurd hcause (by decide)

/-! ### A program that a worker has no room for -/

namespace Program

/-- The line that makes a text sixteen times as long. -/
def sixteenfoldLine : Text := "a=".toText ++ enquoted (List.replicate 16 (Piece.written "a".toText)).flatten

/-- A program whose last line makes a text as long as the memory of a worker. -/
def outgrowing : Text := Text.ofLines ("a=\"x\"".toText :: List.replicate 12 quadruplingLine ++ [sixteenfoldLine])

theorem lines_outgrowing : Text.lines outgrowing = Text.lines (quadrupling 12) ++ [sixteenfoldLine] := by
  rw [lines_quadrupling]
  exact Text.lines_ofLines (by decide)

theorem reads_sixteenfold : ReadsAs (List.replicate 16 (Piece.written "a".toText)).flatten
    (List.replicate 16 (.marker "a".toText)) := readsAs_replicate markerName_a 16

/-- Here the program ends well, with nothing shown. -/
theorem ofProgram_outgrowing : Report.ofProgram .default outgrowing = .success (.str silentOutput) := by
  have hbefore : runLines .default 1 .initial (Text.lines (quadrupling 12)) = .ok (quadrupled 13 (4 ^ 12)) :=
    runLines_quadrupling (by decide) rfl fun _ _ => rfl
  have hlast : (quadrupled 13 (4 ^ 12)).next .default (1 + (Text.lines (quadrupling 12)).length) sixteenfoldLine =
      .ok (quadrupled 14 (16 * 4 ^ 12)) :=
    next_repeating (by decide) (by decide) reads_sixteenfold (by decide) (by decide) (by decide) rfl
  have hruns : runLines .default 1 .initial (Text.lines outgrowing) = .ok (quadrupled 14 (16 * 4 ^ 12)) := by
    rw [lines_outgrowing, runLines_append_ok hbefore, runLines_cons_ok hlast, runLines_nil]
  rw [Report.ofProgram, execute_ok_iff.mpr ⟨_, hruns, rfl⟩]
  rfl

/-- In a worker its last line fails. -/
theorem ofProgram_outgrowing_worker :
    @Report.ofProgram Worker.host .default outgrowing = .failure (.ofStop ⟨.outOfMemory, 14, sixteenfoldLine⟩) := by
  have hbefore : @runLines Worker.host .default 1 .initial (Text.lines (quadrupling 12)) =
      .ok (quadrupled 13 (4 ^ 12)) :=
    Worker.runLines_quadrupling (by decide) (by decide)
  have hlines : Text.lines (quadrupling 12) = "a=\"x\"".toText :: List.replicate 12 quadruplingLine :=
    lines_quadrupling 12
  have htake : (Text.lines outgrowing).take 13 = Text.lines (quadrupling 12) := by
    rw [lines_outgrowing, hlines]
    rfl
  have hlast : (Text.lines outgrowing)[13]? = some sixteenfoldLine := by
    rw [lines_outgrowing, hlines]
    rfl
  have htrim : Text.trim sixteenfoldLine = sixteenfoldLine := by decide
  have hfills : Statement.filling (quadrupled 13 (4 ^ 12)).store sixteenfoldLine =
      16 * (List.replicate (4 ^ 12) (CodePoint.char 'x')).length :=
    Statement.filling_repeating (by decide) (by decide) reads_sixteenfold _
  have hroom : Worker.memory ≤ Statement.filling (quadrupled 13 (4 ^ 12)).store (Text.trim sixteenfoldLine) := by
    rw [htrim, hfills, List.length_replicate]
    decide
  have hup := Worker.gives_up (by decide : ((quadrupled 13 (4 ^ 12)).steps : Int) + 1 ≤ Limits.default.maxSteps) hroom
  rw [hup.ofProgram hlast (htake.symm ▸ hbefore) (by decide), htrim]

end Program

/-- A program of 14 lines ends well here, and for want of memory with an error in a worker. -/
theorem run_outgrows_worker :
    ∃ (timeout : Float) (e : Worker.Exchange),
      Settings.timeout [] = .ok timeout ∧
      e.Genuine Worker.host ⟨Program.outgrowing, some timeout, .obj Limits.default.toSettings⟩ ∧
      run .standard (fun _ => .ok e) [(Settings.workerKey, .bool true)] Program.outgrowing =
        .ok (.failure ⟨.execution, "Error in line '".toText ++ Program.sixteenfoldLine ++ "': MemoryError".toText,
          .int 14, .str Program.sixteenfoldLine⟩) ∧
      run .standard (fun _ => .ok e) [] Program.outgrowing = .ok (.success (.str Program.silentOutput)) := by
  have hcode : Text.isScalar Program.outgrowing = true := by decide +kernel
  have hlimits : Settings.limits .standard [(Settings.workerKey, .bool true)] = .ok .default := rfl
  have htimeout : Settings.timeout [(Settings.workerKey, .bool true)] = .ok (Float.ofInt 2) := rfl
  have hreply : (@Worker.replyTo Worker.host .default (Text.joinPairs Program.outgrowing)).writable = true := by
    rw [Text.joinPairs_of_isScalar hcode]
    simp only [Worker.replyTo, Program.ofProgram_outgrowing_worker]
    decide
  have hgenuine : Worker.Exchange.Genuine Worker.host
      ⟨Program.outgrowing, some (Float.ofInt 2), .obj Limits.default.toSettings⟩ _ :=
    Worker.genuine_replyTo Worker.host [] rfl hreply
  refine ⟨_, _, rfl, hgenuine, ?_, ?_⟩
  · exact (run_genuine hcode hlimits htimeout rfl rfl hgenuine).trans
      (congrArg Except.ok Program.ofProgram_outgrowing_worker)
  · rw [run_here rfl rfl, Program.ofProgram_outgrowing]

end LineScript
