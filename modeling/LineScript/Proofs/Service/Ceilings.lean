import LineScript.Proofs.Program.Counts
import LineScript.Proofs.Run.Outcome
import LineScript.Proofs.Run.WorkerReply
import LineScript.Proofs.Service.Capping
import LineScript.Service.Handlers

/-! The ceilings of the service. Whatever settings a client sends, the limits of its run are the ones asked for
    or the ceilings, whichever are lower, through all the hands that the settings pass: the capping, the
    settings of the runner, the reading of the limits and, in a worker, their second reading. -/

namespace LineScript.Service

variable {s : Settings} {caps : Caps}

/-! ### Capping -/

theorem cap_ok (h : cap s = .ok caps) :
    (∃ asked, s.limits .standard = .ok asked ∧
      caps.limits = ⟨min asked.maxSteps 10000, min asked.maxOutput 5000, min asked.maxFactorial 20⟩) ∧
    caps.wait.isSome = s.usesWorker := by
  obtain ⟨asked, hasked, hlimits, ⟨hworker, hwait⟩ | ⟨hworker, seconds, -, hwait⟩⟩ := cap_ok_iff.mp h
  · exact ⟨⟨asked, hasked, hlimits⟩, by rw [hwait, hworker]; rfl⟩
  · exact ⟨⟨asked, hasked, hlimits⟩, by rw [hwait, hworker]; rfl⟩

/-- The request that a run under capped settings makes of a worker. -/
def Caps.request (c : Caps) (code : Text) : Worker.Request := ⟨code, c.wait, .obj c.limits.toSettings⟩

/-- The program that a run under capped settings executes, which a worker gets as JSON carries it. -/
def Caps.program (c : Caps) (code : Text) : Text := if c.wait.isSome then Text.joinPairs code else code

/-- The process that executes it. -/
@[reducible] def Caps.host (worker : Host) (c : Caps) : Host := if c.wait.isSome then worker else .caller

/-! ### Running -/

variable {serve : Worker.Request → Except Fault Worker.Exchange} {code : Text}

theorem Caps.merge_toSettings (caps : Caps) : Settings.merge [] caps.toSettings = caps.toSettings := by
  cases caps with
  | mk limits wait => cases wait <;> rfl

/-- Without a wait the run takes place here, within the capped limits. -/
theorem report_here (hwait : caps.wait = none) :
    Runner.report ⟨[], serve⟩ caps.toSettings code = .ofProgram caps.limits code := by
  have hlimits := Settings.limits_toSettings .standard caps.limits []
  have hsettings : caps.toSettings = caps.limits.toSettings ++ [] := by rw [Caps.toSettings, hwait]
  unfold Runner.report
  rw [Caps.merge_toSettings, hsettings, run_here hlimits rfl]

/-- With a wait the run is what comes of the request for a worker. -/
theorem report_worker (hwait : caps.wait.isSome = true) :
    Runner.report ⟨[], serve⟩ caps.toSettings code =
      match (serve (caps.request code)).bind Worker.ofExchange with
      | .ok report => report
      | .error fault => .failure (.execution fault.message) := by
  obtain ⟨seconds, hseconds⟩ := Option.isSome_iff_exists.mp hwait
  have hlimits := Settings.limits_toSettings .standard caps.limits
    [(Settings.workerKey, .bool true), (Settings.timeoutKey, .float seconds)]
  have hsettings : caps.toSettings =
      caps.limits.toSettings ++ [(Settings.workerKey, .bool true), (Settings.timeoutKey, .float seconds)] := by
    rw [Caps.toSettings, hseconds]
  have hrun : run .standard serve (Settings.merge [] caps.toSettings) code =
      (serve (caps.request code)).bind Worker.ofExchange := by
    rw [Caps.merge_toSettings, hsettings, run_worker hlimits rfl rfl, Caps.request, hseconds]
  cases hreport : (serve (caps.request code)).bind Worker.ofExchange with
  | error fault => simp only [Runner.report, hrun, hreport]
  | ok report => simp only [Runner.report, hrun, hreport]

/-- Whatever a worker comes to, it has run the program within the capped limits. -/
theorem worker_limits [Host] (hwait : caps.wait.isSome = true) {input : Text} {ending : Worker.Ending}
    (hinput : (caps.request code).input = .ok input) (hmain : Worker.main input = .ok ending) :
    ending.written = Worker.replyTo caps.limits (caps.program code) := by
  unfold Caps.request at hinput
  rw [Worker.main_input hinput] at hmain
  split at hmain
  · obtain rfl := Except.ok.inj hmain
    rw [Caps.program, if_pos hwait]
  · cases hmain

/-! ### Answers without an error -/

theorem ofProgram_ok [Host] {limits : Limits} (h : (Report.ofProgram limits code).error = none) :
    ∃ shown, Program.execute limits code = .ok shown ∧
      Report.ofProgram limits code = .success (.str (Program.output shown)) := by
  unfold Report.ofProgram at h ⊢
  split at h
  · next shown hrun => exact ⟨shown, hrun, rfl⟩
  · cases h

/-- Only from a worker that ended with the code zero comes a report without an error. -/
theorem ofExchange_ok {e : Worker.Exchange} {r : Report} (h : Worker.ofExchange e = .ok r) (hr : r.error = none) :
    ∃ out err, e = .ended 0 out err := by
  rcases Worker.ofExchange_cases e with ⟨f, hf⟩ | ⟨fault, hraises⟩ | ⟨output, hshows⟩
  · obtain rfl := Except.ok.inj (hf.symm.trans h)
    cases hr
  · cases hraises <;> exact ⟨_, _, rfl⟩
  · cases hshows
    exact ⟨_, _, rfl⟩

theorem errorJson_null {r : Report} (h : r.errorJson = .null) : r.error = none := by
  cases hr : r.error with
  | none => rfl
  | some f =>
    rw [Report.errorJson, hr] at h
    cases h

theorem runCode_answer (serve : Worker.Request → Except Fault Worker.Exchange) (clock : Archive.Clock)
    (duration : Int) (a : Archive) {request : RunRequest} (hcap : cap request.settings = .ok caps) :
    (runCode serve clock duration a request).1.output =
        (RunAnswer.ofReport (Runner.report ⟨[], serve⟩ caps.toSettings request.code)).output ∧
      (runCode serve clock duration a request).1.errors =
        (Runner.report ⟨[], serve⟩ caps.toSettings request.code).errorJson := by
  have hattempt : attempt serve request = .ok (Runner.report ⟨[], serve⟩ caps.toSettings request.code) := by
    rw [attempt, hcap]
    rfl
  rw [runCode, hattempt, conclude]
  split <;> exact ⟨rfl, rfl⟩

/-- A report without an error shows what the program shows, in a text that is not longer. -/
theorem report_ok {worker : Host} (hserve : ∀ out err, serve (caps.request code) = .ok (.ended 0 out err) →
      Worker.Exchange.Genuine worker (caps.request code) (.ended 0 out err))
    (h : (Runner.report ⟨[], serve⟩ caps.toSettings code).error = none) :
    ∃ shown t, @Program.execute (caps.host worker) caps.limits (caps.program code) = .ok shown ∧
      (Runner.report ⟨[], serve⟩ caps.toSettings code).output = .str t ∧
      (shown = [] → t = Program.silentOutput) ∧ t.length ≤ (Program.output shown).length := by
  cases hwait : caps.wait.isSome with
  | false =>
    rw [report_here (Option.isNone_iff_eq_none.mp (by simpa using hwait))] at h ⊢
    obtain ⟨shown, hrun, hreport⟩ := @ofProgram_ok _ .caller _ h
    refine ⟨shown, _, by rw [Caps.host, Caps.program, hwait]; exact hrun, by rw [hreport]; rfl, ?_, Nat.le_refl _⟩
    rintro rfl
    rfl
  | true =>
    rw [report_worker hwait] at h ⊢
    cases hexchange : serve (caps.request code) with
    | error fault => rw [hexchange] at h; cases h
    | ok e =>
      cases hreport : Worker.ofExchange e with
      | error fault => rw [hexchange, Except.bind, hreport] at h; cases h
      | ok r =>
        rw [hexchange, Except.bind, hreport] at h
        obtain ⟨out, err, rfl⟩ := ofExchange_ok hreport h
        have hgenuine := Worker.ofExchange_genuine (hserve out err hexchange)
        obtain rfl := Except.ok.inj (hreport.symm.trans hgenuine)
        obtain ⟨shown, hrun, hprogram⟩ := ofProgram_ok (Option.map_eq_none_iff.mp h)
        refine ⟨shown, Text.joinPairs (Program.output shown), by rw [Caps.host, Caps.program, hwait]; exact hrun,
          ?_, ?_, Text.length_joinPairs_le _⟩
        · rw [Except.bind, hreport, hprogram]
          rfl
        · rintro rfl
          rfl

/-- A program has run to its end within the ceilings, and an output is what the service answers to it. -/
structure WithinCeilings [Host] (limits : Limits) (program : Text) (output : Json) : Prop where
  succeeds : ∃ shown, Program.execute limits program = .ok shown
  lines : (Program.dispatched (Text.lines program)).length ≤ 10000
  output : output = .str Program.silentOutput ∨ ∃ t, output = .str t ∧ t.length ≤ 5000
  factorials : ∀ {index n raw argument s}, Program.Computes limits program index n raw argument s → n ≤ 20

theorem withinCeilings_of_ok [Host] {limits : Limits} {program : Text} {shown : List Text} {t : Text}
    (hsteps : limits.maxSteps ≤ 10000) (hchars : limits.maxOutput ≤ 5000) (hfactorial : limits.maxFactorial ≤ 20)
    (hrun : Program.execute limits program = .ok shown) (hsilent : shown = [] → t = Program.silentOutput)
    (hlength : t.length ≤ (Program.output shown).length) : WithinCeilings limits program (.str t) := by
  refine ⟨⟨shown, hrun⟩, ?_, ?_, fun hn => Int.le_trans (Program.execute_factorial hrun hn) hfactorial⟩
  · rcases Program.execute_steps hrun with hnil | hle
    · rw [hnil]
      exact Nat.zero_le _
    · omega
  · rcases Program.execute_chars hrun with hnil | hle
    · exact Or.inl (by rw [hsilent hnil])
    · exact Or.inr ⟨t, rfl, by omega⟩

/-- The limits of a client's run are those asked for up to the ceilings, in a worker as well as here. So a
    run that is answered without an error has kept within the ceilings. -/
theorem runCode_within_ceilings (serve : Worker.Request → Except Fault Worker.Exchange) (clock : Archive.Clock)
    (duration : Int) (a : Archive) (request : RunRequest) (worker : Host) (hcap : cap request.settings = .ok caps)
    (hserve : ∀ out err, serve (caps.request request.code) = .ok (.ended 0 out err) →
      Worker.Exchange.Genuine worker (caps.request request.code) (.ended 0 out err)) :
    (∃ asked, request.settings.limits .standard = .ok asked ∧
      caps.limits = ⟨min asked.maxSteps 10000, min asked.maxOutput 5000, min asked.maxFactorial 20⟩) ∧
    (∃ report, (runCode serve clock duration a request).1.output = (RunAnswer.ofReport report).output ∧
      (runCode serve clock duration a request).1.errors = (RunAnswer.ofReport report).errors ∧
      (request.settings.usesWorker = false → report = @Report.ofProgram .caller caps.limits request.code) ∧
      (request.settings.usesWorker = true →
        report = (match (serve (caps.request request.code)).bind Worker.ofExchange with
          | .ok report => report
          | .error fault => .failure (.execution fault.message)) ∧
        ∀ input ending, (caps.request request.code).input = .ok input → @Worker.main worker input = .ok ending →
          ending.written = @Worker.replyTo worker caps.limits (caps.program request.code))) ∧
    ((runCode serve clock duration a request).1.errors = .null →
      @WithinCeilings (caps.host worker) caps.limits (caps.program request.code)
        (runCode serve clock duration a request).1.output) := by
  obtain ⟨⟨asked, hasked, hlimits⟩, hwait⟩ := cap_ok hcap
  obtain ⟨houtput, herrors⟩ := runCode_answer serve clock duration a hcap
  refine ⟨⟨asked, hasked, hlimits⟩, ⟨_, houtput, herrors, fun hworker => ?_, fun hworker => ?_⟩, fun hnull => ?_⟩
  · rw [hworker] at hwait
    exact report_here (by simpa using hwait)
  · rw [hworker] at hwait
    exact ⟨report_worker hwait, fun input ending => @worker_limits _ _ worker hwait _ _⟩
  · have hok := errorJson_null (herrors.symm.trans hnull)
    obtain ⟨shown, t, hrun, hreport, hsilent, hlength⟩ := report_ok hserve hok
    have hanswer : (RunAnswer.ofReport (Runner.report ⟨[], serve⟩ caps.toSettings request.code)).output = .str t := by
      rw [RunAnswer.ofReport, Report.ok, hok, hreport]
      rfl
    rw [houtput, hanswer]
    refine @withinCeilings_of_ok (caps.host worker) _ _ _ _ ?_ ?_ ?_ hrun hsilent hlength
    · rw [hlimits]
      exact Int.min_le_right _ _
    · rw [hlimits]
      exact Int.min_le_right _ _
    · rw [hlimits]
      exact Int.min_le_right _ _

/-- A client that asks for more steps than there are, and for a worker, gets the ceilings. -/
theorem runCode_within_ceilings_in_worker :
    ∃ serve seconds,
      cap [(Settings.maxStepsKey, .int 50000), (Settings.workerKey, .bool true)] = .ok ⟨.default, some seconds⟩ ∧
      (runCode serve (fun _ => []) 0 .fresh ⟨"factorial(5)".toText,
        [(Settings.maxStepsKey, .int 50000), (Settings.workerKey, .bool true)], none⟩).1.errors = .null ∧
      @WithinCeilings Worker.host .default "factorial(5)".toText (.str "120\n".toText) := by
  have hcap : cap [(Settings.maxStepsKey, .int 50000), (Settings.workerKey, .bool true)] =
    .ok ⟨.default, some _⟩ := rfl
  have hreply : (@Worker.replyTo Worker.host .default (Text.joinPairs "factorial(5)".toText)).writable = true := by
    decide +kernel
  obtain ⟨-, -, hwithin⟩ := runCode_within_ceilings (fun _ => .ok (.ended 0
    ((@Worker.replyTo Worker.host .default (Text.joinPairs "factorial(5)".toText)).write ++ "\n".toText) []))
    (fun _ => []) 0 .fresh
    ⟨"factorial(5)".toText, [(Settings.maxStepsKey, .int 50000), (Settings.workerKey, .bool true)], none⟩ Worker.host
    hcap
    (fun out err h => by
      obtain ⟨-, rfl, rfl⟩ := Worker.Exchange.ended.inj (Except.ok.inj h)
      exact Worker.genuine_replyTo Worker.host [] rfl hreply)
  refine ⟨fun _ => .ok (.ended 0
    ((@Worker.replyTo Worker.host .default (Text.joinPairs "factorial(5)".toText)).write ++ "\n".toText) []), _, hcap,
    ?_, ?_⟩
  · rfl
  · exact hwithin rfl

end LineScript.Service
