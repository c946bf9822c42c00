import LineScript.Proofs.Except
import LineScript.Proofs.Json.RoundTrip
import LineScript.Proofs.Run.Settings

/-! What a run comes to that is left to a worker, whatever the worker leaves behind. A worker that does not start,
    ends badly or writes no JSON is an error of the run. JSON is taken for a reply, member by member, so one of
    another shape makes the run raise or shows as it is. -/

namespace LineScript

/-! ### Members -/

theorem Json.members_of_ne {v : Json} (h : ∀ members, v ≠ .obj members) (wanted : Text) :
    v.members wanted = .error (.noMember v.kindName wanted) := by
  cases v with
  | obj members => exact absurd rfl (h members)
  | _ => rfl

theorem Json.obj_or_ne (v : Json) : (∃ members, v = .obj members) ∨ ∀ members, v ≠ .obj members := by
  cases v with
  | obj members => exact Or.inl ⟨members, rfl⟩
  | _ => exact Or.inr fun members h => nomatch h

theorem Json.read_of_write {v : Json} {t : Text} (hp : v.Portable) (hn : v.nesting ≤ maxDepth)
    (hwrite : v.write ++ [] = t) : Json.read t = .ok v.joined := by
  rw [← hwrite]
  exact read_write hp hn (Or.inl rfl)

/-- A member that counts as true, where none is the same as null. -/
theorem Json.truthy_member_iff {key : Text} {members : List (Text × Json)} :
    ((Json.lookup key members).getD .null).truthy = true ↔ ∃ v, Json.lookup key members = some v ∧ v.truthy = true := by
  cases Json.lookup key members with
  | none => simp [Json.truthy]
  | some v => simp

theorem Json.falsy_member_iff {key : Text} {members : List (Text × Json)} :
    ¬((Json.lookup key members).getD .null).truthy = true ↔
      ∀ v, Json.lookup key members = some v → v.truthy = false := by
  rw [truthy_member_iff]
  simp

/-! ### Errors that are described -/

namespace Failure

/-- A list or an object, which no code is. -/
inductive NoCode : Json → Prop where
  | arr (items : List Json) : NoCode (.arr items)
  | obj (members : List (Text × Json)) : NoCode (.obj members)

theorem kindOfCode_noCode {code : Json} (h : NoCode code) : kindOfCode code = .error (.unhashable code.kindName) := by
  cases h <;> rfl

theorem kindOfCode_cases (code : Json) : NoCode code ∨ ∃ kind, kindOfCode code = .ok kind := by
  cases code with
  | arr items => exact Or.inl (.arr items)
  | obj members => exact Or.inl (.obj members)
  | _ => exact Or.inr ⟨_, rfl⟩

/-- What describes no error, and how the reading fails: no object, or one whose code is a list or an object, or
    whose context counts as true and is no object. -/
inductive Misshapen : Json → Fault → Prop where
  | object {v : Json} (h : ∀ members, v ≠ .obj members) : Misshapen v (.noMember v.kindName "get".toText)
  | code {members : List (Text × Json)} {code : Json} (hlookup : Json.lookup codeKey members = some code)
      (h : NoCode code) : Misshapen (.obj members) (.unhashable code.kindName)
  | context {members : List (Text × Json)} {context : Json}
      (hcode : ∀ code, Json.lookup codeKey members = some code → ¬NoCode code)
      (hlookup : Json.lookup contextKey members = some context) (htruthy : context.truthy = true)
      (h : ∀ inner, context ≠ .obj inner) : Misshapen (.obj members) (.noMember context.kindName "get".toText)

theorem noCode_iff {members : List (Text × Json)} :
    NoCode ((Json.lookup codeKey members).getD (.str [])) ↔
      ∃ code, Json.lookup codeKey members = some code ∧ NoCode code := by
  cases Json.lookup codeKey members with
  | none =>
    constructor
    · exact fun h => nomatch h
    · exact fun ⟨_, h, _⟩ => nomatch h
  | some code => simp

theorem ofJson_misshapen {v : Json} {fault : Fault} (h : Misshapen v fault) : ofJson v = .error fault := by
  cases h with
  | object h => exact bind_error_iff.mpr (.inl (Json.members_of_ne h _))
  | code hlookup h =>
    refine bind_error_iff.mpr (.inr ⟨_, rfl, bind_error_iff.mpr (.inl ?_)⟩)
    rw [hlookup]
    exact kindOfCode_noCode h
  | @context members context hcode hlookup htruthy h =>
    have hnone : ¬NoCode ((Json.lookup codeKey members).getD (.str [])) := by
      rw [noCode_iff]
      rintro ⟨code, hlookup, hno⟩
      exact hcode code hlookup hno
    obtain ⟨kind, hkind⟩ := (kindOfCode_cases _).resolve_left hnone
    refine bind_error_iff.mpr (.inr ⟨members, rfl, bind_error_iff.mpr (.inr ⟨kind, hkind, ?_⟩)⟩)
    dsimp only
    rw [hlookup, Option.getD_some, if_pos htruthy]
    exact bind_error_iff.mpr (.inl (Json.members_of_ne h _))

/-- Whatever is not misshapen describes an error. -/
theorem ofJson_cases (v : Json) : (∃ f, ofJson v = .ok f) ∨ ∃ fault, Misshapen v fault := by
  rcases v.obj_or_ne with ⟨members, rfl⟩ | hno
  · rcases kindOfCode_cases ((Json.lookup codeKey members).getD (.str [])) with hcode | ⟨kind, hkind⟩
    · obtain ⟨code, hlookup, hcode⟩ := noCode_iff.mp hcode
      exact Or.inr ⟨_, .code hlookup hcode⟩
    · have hcode : ∀ code, Json.lookup codeKey members = some code → ¬NoCode code := by
        rintro code hlookup hcode
        rw [hlookup, Option.getD_some, kindOfCode_noCode hcode] at hkind
        cases hkind
      by_cases htruthy : ((Json.lookup contextKey members).getD .null).truthy = true
      · obtain ⟨context, hlookup, hcontext⟩ := Json.truthy_member_iff.mp htruthy
        rcases context.obj_or_ne with ⟨inner, rfl⟩ | hno
        · left
          simp only [ofJson, Json.members, hkind, hlookup, hcontext, Option.getD_some, ↓reduceIte, bind, Except.bind]
          exact ⟨_, rfl⟩
        · exact Or.inr ⟨_, .context hcode hlookup hcontext hno⟩
      · left
        simp only [ofJson, Json.members, hkind, htruthy, Bool.false_eq_true, ↓reduceIte, bind, Except.bind]
        exact ⟨_, rfl⟩
  · exact Or.inr ⟨_, .object hno⟩

/-- An error described in the form that a worker gives it has a text for a code and an object for a context, if it
    has any. -/
structure InForm (members : List (Text × Json)) : Prop where
  code : ∀ code, Json.lookup codeKey members = some code → ∃ t, code = .str t
  context : ∀ context, Json.lookup contextKey members = some context → ∃ inner, context = .obj inner

end Failure

/-! ### Replies -/

namespace Worker

/-- What is no reply, and how the reading fails: no object, or one whose error counts as true and describes none. -/
inductive NoReply : Json → Fault → Prop where
  | object {payload : Json} (h : ∀ members, payload ≠ .obj members) :
      NoReply payload (.noMember payload.kindName "get".toText)
  | error {members : List (Text × Json)} {error : Json} {fault : Fault}
      (hlookup : Json.lookup errorKey members = some error) (htruthy : error.truthy = true)
      (h : Failure.Misshapen error fault) : NoReply (.obj members) fault

/-- The output that a reply without an error shows: the member as it is, or that there is none. -/
inductive RepliesWith : Json → Json → Prop where
  | output {members : List (Text × Json)} {output : Json}
      (herror : ∀ error, Json.lookup errorKey members = some error → error.truthy = false)
      (hlookup : Json.lookup outputKey members = some output) (htruthy : output.truthy = true) :
      RepliesWith (.obj members) output
  | silent {members : List (Text × Json)}
      (herror : ∀ error, Json.lookup errorKey members = some error → error.truthy = false)
      (houtput : ∀ output, Json.lookup outputKey members = some output → output.truthy = false) :
      RepliesWith (.obj members) (.str Program.silentOutput)

theorem ofReply_noReply {payload : Json} {fault : Fault} (h : NoReply payload fault) :
    ofReply payload = .error fault := by
  cases h with
  | object h => exact bind_error_iff.mpr (.inl (Json.members_of_ne h _))
  | @error members error fault hlookup htruthy h =>
    refine bind_error_iff.mpr (.inr ⟨members, rfl, ?_⟩)
    dsimp only
    rw [hlookup, Option.getD_some, if_pos htruthy, Failure.ofJson_misshapen h]
    rfl

theorem ofReply_repliesWith {payload output : Json} (h : RepliesWith payload output) :
    ofReply payload = .ok (.success output) := by
  cases h with
  | @output members output herror hlookup htruthy =>
    refine bind_ok_iff.mpr ⟨members, rfl, ?_⟩
    dsimp only
    rw [if_neg (Json.falsy_member_iff.mpr herror), hlookup, Option.getD_some, if_pos htruthy]
    rfl
  | @silent members herror houtput =>
    refine bind_ok_iff.mpr ⟨members, rfl, ?_⟩
    dsimp only
    rw [if_neg (Json.falsy_member_iff.mpr herror), if_neg (Json.falsy_member_iff.mpr houtput)]
    rfl

/-- Whatever is a reply and shows no output is an error. -/
theorem ofReply_cases (payload : Json) :
    (∃ f, ofReply payload = .ok (.failure f)) ∨ (∃ fault, NoReply payload fault) ∨
      ∃ output, RepliesWith payload output := by
  rcases payload.obj_or_ne with ⟨members, rfl⟩ | hno
  · by_cases htruthy : ((Json.lookup errorKey members).getD .null).truthy = true
    · obtain ⟨error, hlookup, herror⟩ := Json.truthy_member_iff.mp htruthy
      rcases Failure.ofJson_cases error with ⟨f, hf⟩ | ⟨fault, hfault⟩
      · refine Or.inl ⟨f, bind_ok_iff.mpr ⟨members, rfl, ?_⟩⟩
        dsimp only
        rw [hlookup, Option.getD_some, if_pos herror, hf]
        rfl
      · exact Or.inr (Or.inl ⟨fault, .error hlookup herror hfault⟩)
    · have herror := Json.falsy_member_iff.mp htruthy
      by_cases hshown : ((Json.lookup outputKey members).getD .null).truthy = true
      · obtain ⟨output, hlookup, houtput⟩ := Json.truthy_member_iff.mp hshown
        exact Or.inr (Or.inr ⟨output, .output herror hlookup houtput⟩)
      · exact Or.inr (Or.inr ⟨_, .silent herror (Json.falsy_member_iff.mp hshown)⟩)
  · exact Or.inr (Or.inl ⟨_, .object hno⟩)

/-! ### Exchanges -/

/-- What a worker that ended well leaves to make the run raise: JSON nested too deeply to be read, or no reply. -/
inductive Exchange.Raises : Exchange → Fault → Prop where
  | tooDeep {out err : Text} (h : Json.read out = .error .tooDeep) : Raises (.ended 0 out err) .tooDeep
  | noReply {out err : Text} {payload : Json} {fault : Fault} (hread : Json.read out = .ok payload)
      (h : NoReply payload fault) : Raises (.ended 0 out err) fault

/-- What a worker that ended well leaves for the run to show. -/
inductive Exchange.Shows : Exchange → Json → Prop where
  | reply {out err : Text} {payload output : Json} (hread : Json.read out = .ok payload)
      (h : RepliesWith payload output) : Shows (.ended 0 out err) output

variable {e : Exchange}

theorem ofExchange_raises {fault : Fault} (h : e.Raises fault) : ofExchange e = .error fault := by
  cases h with
  | tooDeep h => simp [ofExchange, h]
  | noReply hread h => simp [ofExchange, hread, ofReply_noReply h]

theorem ofExchange_shows {output : Json} (h : e.Shows output) : ofExchange e = .ok (.success output) := by
  cases h with
  | reply hread h => simp [ofExchange, hread, ofReply_repliesWith h]

/-- Everything else is an error of the run. -/
theorem ofExchange_cases (e : Exchange) :
    (∃ f, ofExchange e = .ok (.failure f)) ∨ (∃ fault, e.Raises fault) ∨ ∃ output, e.Shows output := by
  cases e with
  | notStarted reason => exact Or.inl ⟨_, rfl⟩
  | ended code out err =>
    by_cases hzero : code = 0
    · subst hzero
      cases hread : Json.read out with
      | ok payload =>
        rcases ofReply_cases payload with ⟨f, hf⟩ | ⟨fault, hfault⟩ | ⟨output, houtput⟩
        · exact Or.inl ⟨f, by simp [ofExchange, hread, hf]⟩
        · exact Or.inr (Or.inl ⟨fault, .noReply hread hfault⟩)
        · exact Or.inr (Or.inr ⟨output, .reply hread houtput⟩)
      | error fault =>
        cases fault with
        | tooDeep => exact Or.inr (Or.inl ⟨_, .tooDeep hread⟩)
        | malformed complaint line column position => exact Or.inl ⟨_, by simp [ofExchange, hread]; rfl⟩
        | longInteger digits => exact Or.inl ⟨_, by simp [ofExchange, hread]; rfl⟩
    · left
      unfold ofExchange
      dsimp only
      split
      · exact ⟨_, rfl⟩
      · exact ⟨_, rfl⟩

theorem ofExchange_error_iff {fault : Fault} : ofExchange e = .error fault ↔ e.Raises fault := by
  refine ⟨fun h => ?_, ofExchange_raises⟩
  rcases ofExchange_cases e with ⟨f, hf⟩ | ⟨fault', hraises⟩ | ⟨output, hshows⟩
  · rw [hf] at h
    cases h
  · rw [ofExchange_raises hraises] at h
    obtain rfl := Except.error.inj h
    exact hraises
  · rw [ofExchange_shows hshows] at h
    cases h

theorem ofExchange_success_iff {output : Json} : ofExchange e = .ok (.success output) ↔ e.Shows output := by
  refine ⟨fun h => ?_, ofExchange_shows⟩
  rcases ofExchange_cases e with ⟨f, hf⟩ | ⟨fault, hraises⟩ | ⟨output', hshows⟩
  · rw [hf] at h
    cases h
  · rw [ofExchange_raises hraises] at h
    cases h
  · rw [ofExchange_shows hshows] at h
    obtain rfl : output' = output := congrArg Report.output (Except.ok.inj h)
    exact hshows

/-! ### Workers that keep to the form -/

/-- A reply in the form that a worker gives it has null or a text for an output, and null or an object that
    describes an error for an error. -/
structure InForm (members : List (Text × Json)) : Prop where
  output : ∀ output, Json.lookup outputKey members = some output → output = .null ∨ ∃ t, output = .str t
  error : ∀ error, Json.lookup errorKey members = some error →
    error = .null ∨ ∃ inner, error = .obj inner ∧ Failure.InForm inner

/-- A worker that ended well and wrote JSON has written a reply in form. -/
def Exchange.InForm (e : Exchange) : Prop :=
  ∀ out err, e = .ended 0 out err →
    Json.read out ≠ .error .tooDeep ∧
    ∀ payload, Json.read out = .ok payload → ∃ members, payload = .obj members ∧ Worker.InForm members

theorem not_misshapen {inner : List (Text × Json)} {fault : Fault} (h : Failure.InForm inner) :
    ¬Failure.Misshapen (.obj inner) fault := by
  intro hmisshapen
  cases hmisshapen with
  | object hno => exact hno inner rfl
  | code hlookup hcode =>
    obtain ⟨t, rfl⟩ := h.code _ hlookup
    cases hcode
  | context hcode hlookup htruthy hno =>
    obtain ⟨more, rfl⟩ := h.context _ hlookup
    exact hno more rfl

theorem not_noReply {members : List (Text × Json)} {fault : Fault} (h : InForm members) :
    ¬NoReply (.obj members) fault := by
  intro hnone
  cases hnone with
  | object hno => exact hno members rfl
  | error hlookup htruthy hmisshapen =>
    rcases h.error _ hlookup with rfl | ⟨inner, rfl, hinner⟩
    · cases htruthy
    · exact not_misshapen hinner hmisshapen

/-- Nothing that keeps to the form makes the run raise. -/
theorem not_raises {fault : Fault} (h : e.InForm) : ¬e.Raises fault := by
  intro hraises
  cases hraises with
  | tooDeep hread => exact (h _ _ rfl).1 hread
  | noReply hread hnone =>
    obtain ⟨members, rfl, hform⟩ := (h _ _ rfl).2 _ hread
    exact not_noReply hform hnone

/-- And whatever it shows is a text. -/
theorem shows_text {output : Json} (h : e.InForm) (hshows : e.Shows output) : ∃ t, output = .str t := by
  cases hshows with
  | reply hread hreplies =>
    obtain ⟨members, rfl, hform⟩ := (h _ _ rfl).2 _ hread
    cases hreplies with
    | output herror hlookup htruthy =>
      rcases hform.output _ hlookup with rfl | htext
      · cases htruthy
      · exact htext
    | silent herror houtput => exact ⟨_, rfl⟩

end Worker

/-! ### Runs -/

section
variable {d : Defaults} (serve : Worker.Request → Except Fault Worker.Exchange) {s : Settings} {code : Text}
  {limits : Limits} {timeout : Float} {e : Worker.Exchange}

theorem run_exchange (hlimits : s.limits d = .ok limits) (htimeout : s.timeout = .ok timeout)
    (hworker : s.usesWorker = true) (hserve : serve ⟨code, some timeout, .obj limits.toSettings⟩ = .ok e) :
    run d serve s code = Worker.ofExchange e := by
  rw [run_worker hlimits htimeout hworker, hserve]
  rfl

/-- A run that is left to a worker raises or shows an output exactly as the worker's reply makes it, and is an error
    otherwise. As long as the worker keeps to the form, or does not get so far, it is an error or it shows a text. -/
theorem run_in_worker_outcome (hlimits : s.limits d = .ok limits) (htimeout : s.timeout = .ok timeout)
    (hworker : s.usesWorker = true) (hserve : serve ⟨code, some timeout, .obj limits.toSettings⟩ = .ok e) :
    (∀ fault, run d serve s code = .error fault ↔ e.Raises fault) ∧
    (∀ output, run d serve s code = .ok (.success output) ↔ e.Shows output) ∧
    ((∀ fault, ¬e.Raises fault) → (∀ output, ¬e.Shows output) → ∃ f, run d serve s code = .ok (.failure f)) ∧
    (e.InForm → (∃ f, run d serve s code = .ok (.failure f)) ∨ ∃ t, run d serve s code = .ok (.success (.str t))) := by
  rw [run_exchange serve hlimits htimeout hworker hserve]
  have hcases := Worker.ofExchange_cases e
  refine ⟨fun fault => Worker.ofExchange_error_iff, fun output => Worker.ofExchange_success_iff,
    fun hraises hshows => ?_, fun hform => ?_⟩
  · rcases hcases with hfails | ⟨fault, hfault⟩ | ⟨output, houtput⟩
    · exact hfails
    · exact absurd hfault (hraises fault)
    · exact absurd houtput (hshows output)
  · rcases hcases with hfails | ⟨fault, hfault⟩ | ⟨output, houtput⟩
    · exact Or.inl hfails
    · exact absurd hfault (Worker.not_raises hform)
    · obtain ⟨t, rfl⟩ := Worker.shows_text hform houtput
      exact Or.inr ⟨t, Worker.ofExchange_shows houtput⟩

end

/-- A worker whose program has shown nothing. -/
theorem run_in_worker_outcome_silent :
    run .standard (fun _ => .ok (.ended 0 "\x7b\"output\": null\x7d".toText [])) [(Settings.workerKey, .bool true)]
      "var x = 1".toText = .ok (.success (.str Program.silentOutput)) := by
  have hlimits : Settings.limits .standard [(Settings.workerKey, .bool true)] = .ok .default := rfl
  have hread : Json.read "\x7b\"output\": null\x7d".toText = .ok (.obj [(Worker.outputKey, .null)]) :=
    Json.read_of_write (v := .obj [(Worker.outputKey, .null)]) ⟨by simp, rfl, trivial, trivial⟩ (by decide) (by decide)
  obtain ⟨-, hshows, -, -⟩ := run_in_worker_outcome
    (fun _ => .ok (.ended 0 "\x7b\"output\": null\x7d".toText [])) hlimits rfl rfl rfl
  refine (hshows _).mpr (.reply hread (.silent (fun error h => nomatch h) fun output h => ?_))
  obtain rfl := Option.some.inj h
  rfl

/-- A worker that writes a list makes the run raise, and of one that writes a number for an output the run shows that
    number. -/
theorem run_in_worker_misshapen_reply :
    run .standard (fun _ => .ok (.ended 0 "[]".toText [])) [(Settings.workerKey, .bool true)] "print(1)".toText =
      .error (.noMember "list".toText "get".toText) ∧
    run .standard (fun _ => .ok (.ended 0 "\x7b\"output\": 5\x7d".toText [])) [(Settings.workerKey, .bool true)]
      "print(1)".toText = .ok (.success (.int 5)) := by
  have hlimits : Settings.limits .standard [(Settings.workerKey, .bool true)] = .ok .default := rfl
  have hlist : Json.read "[]".toText = .ok (.arr []) :=
    Json.read_of_write (v := .arr []) trivial (by decide) (by decide)
  have hfive : (Text.ofNat 5).length ≤ Decimal.maxDigits := by decide
  have hnumber : Json.read "\x7b\"output\": 5\x7d".toText = .ok (.obj [(Worker.outputKey, .int 5)]) :=
    Json.read_of_write (v := .obj [(Worker.outputKey, .int 5)]) ⟨by simp, rfl, hfive, trivial⟩ (by decide) (by decide)
  constructor
  · rw [run_exchange _ hlimits rfl rfl rfl]
    exact Worker.ofExchange_raises (.noReply hlist (.object fun members h => nomatch h))
  · rw [run_exchange _ hlimits rfl rfl rfl]
    exact Worker.ofExchange_shows (.reply hnumber (.output (fun error h => nomatch h) rfl rfl))

end LineScript
