import LineScript.Proofs.Json.RoundTrip
import LineScript.Proofs.Program.Run
import LineScript.Proofs.Run.Settings

/-! What passes between a run and its worker. The worker reads the limits that the run had read, and runs
    the program as JSON carries it, with its pairs of surrogates joined; the run gets back the report of the
    worker, its texts carried in the same way. -/

namespace LineScript

/-! ### Reports -/

/-- The error as it is after its texts have gone through JSON. -/
def Failure.joined (f : Failure) : Failure := ⟨f.kind, Text.joinPairs f.message, f.line.joined, f.lineText.joined⟩

/-- The report as it is after its texts have gone through JSON. -/
def Report.joined (r : Report) : Report := ⟨r.output.joined, r.error.map Failure.joined⟩

/-- A report of a run holds an output that is not empty, or an error of a line that is of a kind with a code
    of its own. -/
theorem Report.ofProgram_cases [Host] (limits : Limits) (code : Text) :
    (∃ t, t ≠ [] ∧ ofProgram limits code = success (.str t)) ∨
    (∃ kind message line text, kind ≠ .general ∧
      ofProgram limits code = failure ⟨kind, message, .int line, .str text⟩) := by
  unfold ofProgram
  split
  · next shown _ => exact Or.inl ⟨_, Program.output_ne_nil shown, rfl⟩
  · next stop _ =>
    refine Or.inr ⟨stop.cause.kind, _, _, _, ?_, rfl⟩
    unfold Cause.kind
    split <;> exact fun h => nomatch h

namespace Worker

theorem ofReply_success {t : Text} (ht : t ≠ []) :
    ofReply (reply (.str t) .null).joined = .ok (Report.success (.str (Text.joinPairs t))) := by
  obtain ⟨c, more, hjoin⟩ := List.exists_cons_of_ne_nil (Text.joinPairs_ne_nil ht)
  show ofReply (reply (.str (Text.joinPairs t)) .null) = _
  rw [hjoin]
  rfl

theorem ofReply_failure {kind : ErrorKind} (hkind : kind ≠ .general) (message text : Text) (line : Int) :
    ofReply (reply .null (Failure.toJson ⟨kind, message, .int line, .str text⟩)).joined =
      .ok (.failure ⟨kind, Text.joinPairs message, .int line, .str (Text.joinPairs text)⟩) := by
  cases kind with
  | general => exact absurd rfl hkind
  | compilation => rfl
  | execution => rfl
  | unsupported => rfl

/-- The reply of a worker to a run. -/
def replyTo [Host] (limits : Limits) (code : Text) : Json :=
  reply (Report.ofProgram limits code).output (Report.ofProgram limits code).errorJson

/-- The report of the worker is what is read from its reply. -/
theorem ofReply_replyTo [Host] (limits : Limits) (code : Text) :
    ofReply (replyTo limits code).joined = .ok (Report.ofProgram limits code).joined := by
  rcases Report.ofProgram_cases limits code with ⟨t, ht, h⟩ | ⟨kind, message, line, text, hkind, h⟩
  · rw [replyTo, h]
    exact ofReply_success ht
  · rw [replyTo, h]
    exact ofReply_failure hkind message text line

theorem replyTo_portable [Host] {limits : Limits} {code : Text} (h : (replyTo limits code).writable = true) :
    (replyTo limits code).Portable ∧ (replyTo limits code).nesting ≤ Json.maxDepth := by
  have names : [outputKey, errorKey].Nodup := by decide
  have errorNames : [Failure.codeKey, Failure.messageKey, Failure.lineKey, Failure.contextKey].Nodup := by decide
  have contextNames : [Failure.lineTextKey].Nodup := by decide
  have flat : 1 ≤ Json.maxDepth := by decide
  have deep : 3 ≤ Json.maxDepth := by decide
  rcases Report.ofProgram_cases limits code with ⟨t, -, hr⟩ | ⟨kind, message, line, text, -, hr⟩
  · rw [replyTo, hr]
    exact ⟨⟨names, rfl, trivial, rfl, trivial, trivial⟩, flat⟩
  · rw [replyTo, hr] at h ⊢
    have hline : (Text.ofNat line.natAbs).length ≤ Decimal.maxDigits := by
      simpa [reply, Report.errorJson, Failure.toJson, Failure.isNull, Report.failure, Json.writable,
        Json.writableMembers, Decimal.isWritable] using h
    have context : (Json.obj [(Failure.lineTextKey, .str text)]).Portable := ⟨contextNames, rfl, trivial, trivial⟩
    have error : (Failure.toJson ⟨kind, message, .int line, .str text⟩).Portable :=
      ⟨errorNames, rfl, trivial, rfl, trivial, rfl, hline, rfl, context, trivial⟩
    exact ⟨⟨names, rfl, trivial, rfl, error, trivial⟩, deep⟩

/-! ### The work of a worker -/

/-- What a worker reads of the request of a run. -/
theorem Request.payload_joined (code : Text) (timeout : Option Float) (limits : Limits) :
    (Request.payload ⟨code, timeout, .obj limits.toSettings⟩).joined =
      (Request.payload ⟨Text.joinPairs code, timeout, .obj limits.toSettings⟩) := rfl

theorem Request.payload_portable {code : Text} {timeout : Option Float} {limits : Limits}
    (h : (Request.payload ⟨code, timeout, .obj limits.toSettings⟩).writable = true) :
    (Request.payload ⟨code, timeout, .obj limits.toSettings⟩).Portable ∧
      (Request.payload ⟨code, timeout, .obj limits.toSettings⟩).nesting ≤ Json.maxDepth := by
  have names : [codeKey, limitsKey].Nodup := by decide
  have limitNames : [Settings.maxStepsKey, Settings.maxOutputKey, Settings.maxFactorialKey].Nodup := by decide
  have hlimits : (Text.ofNat limits.maxSteps.natAbs).length ≤ Decimal.maxDigits ∧
      (Text.ofNat limits.maxOutput.natAbs).length ≤ Decimal.maxDigits ∧
      (Text.ofNat limits.maxFactorial.natAbs).length ≤ Decimal.maxDigits := by
    simpa [Request.payload, Limits.toSettings, Json.writable, Json.writableMembers, Decimal.isWritable] using h
  have deep : 2 ≤ Json.maxDepth := by decide
  obtain ⟨hsteps, houtput, hfactorial⟩ := hlimits
  exact ⟨⟨names, rfl, trivial, rfl, ⟨limitNames, rfl, hsteps, rfl, houtput, rfl, hfactorial, trivial⟩, trivial⟩, deep⟩

/-- A worker runs the program within the limits it is given. -/
theorem answer_payload [Host] (code : Text) (timeout : Option Float) (limits : Limits) :
    answer (Request.payload ⟨code, timeout, .obj limits.toSettings⟩) = .ok (replyTo limits code) := by
  have hlimits := Settings.limits_toSettings .standard limits []
  have hfilter : limits.toSettings.filter (fun m => m.1 ≠ Settings.workerKey) = limits.toSettings ++ [] := rfl
  have hmembers : Json.lookup limitsKey [(codeKey, .str code), (limitsKey, .obj limits.toSettings)] =
      some (.obj limits.toSettings) := rfl
  have hcode : Json.lookup codeKey [(codeKey, .str code), (limitsKey, .obj limits.toSettings)] = some (.str code) := rfl
  have htruthy : (Json.obj limits.toSettings).truthy = true := rfl
  simp only [answer, Request.payload, Json.members, bind, Except.bind, hmembers, hcode, Option.getD_some, htruthy,
    ↓reduceIte, hfilter, hlimits]
  rfl

/-- What a worker does with the request of a run. -/
theorem main_input [Host] {code input : Text} {timeout : Option Float} {limits : Limits}
    (h : Request.input ⟨code, timeout, .obj limits.toSettings⟩ = .ok input) :
    main input = if (replyTo limits (Text.joinPairs code)).writable then .ok ⟨0, replyTo limits (Text.joinPairs code)⟩
      else .error (.number .unwritable) := by
  unfold Request.input at h
  split at h
  · next hwritable =>
    obtain rfl := Except.ok.inj h
    obtain ⟨hportable, hnesting⟩ := Request.payload_portable hwritable
    have hread := Json.read_write hportable hnesting (Or.inl rfl)
    rw [List.append_nil, Request.payload_joined] at hread
    rw [main, hread]
    simp only [answer_payload]
    rfl
  · cases h

/-- The exchange is that of a worker that ended well, having written what its own work in its own process came to. -/
def Exchange.Genuine (worker : Host) (r : Request) (e : Exchange) : Prop :=
  ∃ input ending err, r.input = .ok input ∧ @main worker input = .ok ending ∧ ending.exit = 0 ∧
    e = .ended 0 (ending.written.write ++ "\n".toText) err

/-- A worker whose request and reply can be written ends well. -/
theorem genuine_replyTo (worker : Host) {code : Text} {timeout : Option Float} {limits : Limits} (err : Text)
    (hrequest : (Request.payload ⟨code, timeout, .obj limits.toSettings⟩).writable = true)
    (hreply : (@replyTo worker limits (Text.joinPairs code)).writable = true) :
    Exchange.Genuine worker ⟨code, timeout, .obj limits.toSettings⟩
      (.ended 0 ((@replyTo worker limits (Text.joinPairs code)).write ++ "\n".toText) err) := by
  have hinput : Request.input ⟨code, timeout, .obj limits.toSettings⟩ =
      .ok (Request.payload ⟨code, timeout, .obj limits.toSettings⟩).write := if_pos hrequest
  exact ⟨_, _, err, hinput, (@main_input worker _ _ _ _ hinput).trans (if_pos hreply), rfl, rfl⟩

/-- From a worker that ended well comes the report of the program it was sent, run in its process, the texts
    carried as JSON carries them. -/
theorem ofExchange_genuine {worker : Host} {code : Text} {timeout : Option Float} {limits : Limits} {e : Exchange}
    (h : e.Genuine worker ⟨code, timeout, .obj limits.toSettings⟩) :
    ofExchange e = .ok (@Report.ofProgram worker limits (Text.joinPairs code)).joined := by
  obtain ⟨input, ending, err, hinput, hmain, -, rfl⟩ := h
  rw [@main_input worker _ _ _ _ hinput] at hmain
  split at hmain
  · next hwritable =>
    obtain rfl := Except.ok.inj hmain
    obtain ⟨hportable, hnesting⟩ := @replyTo_portable worker _ _ hwritable
    have hread := Json.read_write hportable hnesting (Or.inr rfl)
    have hreply := @ofReply_replyTo worker limits (Text.joinPairs code)
    simp only [ofExchange, hread, hreply]
    rfl
  · cases hmain

end Worker
end LineScript
