import LineScript.Proofs.Except
import LineScript.Run.Runner

/-! Settings as a run reads them. Only the members that a run asks for count; what asks for a worker is
    no limit and no timeout; and limits written out as settings are read back as they are. -/

namespace LineScript

/-! ### Members -/

theorem Json.lookup_cons (key : Text) (m : Text × Json) (rest : List (Text × Json)) :
    Json.lookup key (m :: rest) = if key = m.1 then some m.2 else Json.lookup key rest := by
  obtain ⟨name, v⟩ := m
  by_cases h : key = name
  · simp [Json.lookup, h]
  · have hb : (key == name) = false := by simpa using h
    simp [Json.lookup, List.lookup_cons, hb, h]

theorem Json.lookup_put (name : Text) (v : Json) (members : List (Text × Json)) (key : Text) :
    Json.lookup key (Json.put name v members) = if key = name then some v else Json.lookup key members := by
  induction members with
  | nil => exact Json.lookup_cons key (name, v) []
  | cons m rest ih =>
    by_cases hn : m.1 = name
    · rw [Json.put, if_pos hn, Json.lookup_cons, Json.lookup_cons]
      by_cases hk : key = name <;> simp [hk, hn]
    · rw [Json.put, if_neg hn, Json.lookup_cons, Json.lookup_cons, ih]
      by_cases hk : key = m.1 <;> simp [hk, hn]

theorem Json.lookup_filter_ne {name key : Text} (h : key ≠ name) (members : List (Text × Json)) :
    Json.lookup key (members.filter fun m => m.1 ≠ name) = Json.lookup key members := by
  induction members with
  | nil => rfl
  | cons m rest ih =>
    by_cases hn : m.1 = name
    · have hk : key ≠ m.1 := hn ▸ h
      rw [List.filter_cons_of_neg (by simpa using hn), Json.lookup_cons, if_neg hk, ih]
    · rw [List.filter_cons_of_pos (by simpa using hn), Json.lookup_cons, Json.lookup_cons, ih]

theorem Json.lookup_filter_self (name : Text) (members : List (Text × Json)) :
    Json.lookup name (members.filter fun m => m.1 ≠ name) = none := by
  induction members with
  | nil => rfl
  | cons m rest ih =>
    by_cases hn : m.1 = name
    · rw [List.filter_cons_of_neg (by simpa using hn), ih]
    · rw [List.filter_cons_of_pos (by simpa using hn), Json.lookup_cons, if_neg (Ne.symm hn), ih]

namespace Settings

variable {d : Defaults} {s t : Settings}

/-- Two settings are read alike when they agree on the members that a limit or the timeout asks for. -/
structure Agree (s t : Settings) : Prop where
  steps : Json.lookup maxStepsKey s = Json.lookup maxStepsKey t
  output : Json.lookup maxOutputKey s = Json.lookup maxOutputKey t
  factorial : Json.lookup maxFactorialKey s = Json.lookup maxFactorialKey t
  timeout : Json.lookup timeoutKey s = Json.lookup timeoutKey t

theorem Agree.limits_eq (h : Agree s t) (d : Defaults) : s.limits d = t.limits d := by
  simp only [Settings.limits, integer, Settings.get, h.steps, h.output, h.factorial]

theorem Agree.timeout_eq (h : Agree s t) : s.timeout = t.timeout := by
  simp only [Settings.timeout, Settings.get, h.timeout]

theorem agree_put (v : Json) (s : Settings) : Agree (Json.put workerKey v s) s := by
  constructor <;> rw [Json.lookup_put] <;> exact if_neg (by decide)

theorem agree_filter (s : Settings) : Agree (s.filter fun m => m.1 ≠ workerKey) s := by
  constructor <;> exact Json.lookup_filter_ne (by decide) s

theorem usesWorker_put (v : Json) (s : Settings) : usesWorker (Json.put workerKey v s) = v.truthy := by
  simp [usesWorker, Settings.get, Json.lookup_put]

theorem usesWorker_filter (s : Settings) : usesWorker (s.filter fun m => m.1 ≠ workerKey) = false := by
  rw [usesWorker, Settings.get, Json.lookup_filter_self]
  rfl

theorem integer_ok_iff {key : Text} {otherwise : Json} {n : Int} :
    s.integer key otherwise = .ok n ↔ (s.get key otherwise).toInteger = .ok n := by
  unfold integer
  cases (s.get key otherwise).toInteger with
  | error fault => exact ⟨fun h => (nomatch h), fun h => (nomatch h)⟩
  | ok m => exact ⟨fun h => congrArg Except.ok (Except.ok.inj h), fun h => congrArg Except.ok (Except.ok.inj h)⟩

theorem limits_ok {l : Limits} (h : s.limits d = .ok l) :
    (s.get maxStepsKey d.maxSteps).toInteger = .ok l.maxSteps ∧
    (s.get maxOutputKey d.maxOutput).toInteger = .ok l.maxOutput ∧
    (s.get maxFactorialKey d.maxFactorial).toInteger = .ok l.maxFactorial := by
  obtain ⟨steps, hsteps, h⟩ := bind_ok_iff.mp h
  obtain ⟨output, houtput, h⟩ := bind_ok_iff.mp h
  obtain ⟨factorial, hfactorial, h⟩ := bind_ok_iff.mp h
  obtain rfl := Except.ok.inj h
  exact ⟨integer_ok_iff.mp hsteps, integer_ok_iff.mp houtput, integer_ok_iff.mp hfactorial⟩

/-- Limits written out as settings ask for just these limits, whatever the defaults are. -/
theorem limits_toSettings (d : Defaults) (l : Limits) (more : Settings) :
    Settings.limits d (l.toSettings ++ more) = .ok l := by
  have hsteps : integer (l.toSettings ++ more) maxStepsKey d.maxSteps = .ok l.maxSteps := integer_ok_iff.mpr rfl
  have houtput : integer (l.toSettings ++ more) maxOutputKey d.maxOutput = .ok l.maxOutput := integer_ok_iff.mpr rfl
  have hfactorial : integer (l.toSettings ++ more) maxFactorialKey d.maxFactorial = .ok l.maxFactorial :=
    integer_ok_iff.mpr rfl
  simp only [Settings.limits, hsteps, houtput, hfactorial, bind, Except.bind]
  rfl

end Settings

/-- A run that asks for no worker takes place here and now. -/
theorem run_here [Host] {d : Defaults} {serve : Worker.Request → Except Fault Worker.Exchange} {s : Settings}
    {limits : Limits} (hl : s.limits d = .ok limits) (hw : s.usesWorker = false) (code : Text) :
    run d serve s code = .ok (.ofProgram limits code) := by
  simp [run, hl, hw, bind, Except.bind, pure, Except.pure]

/-- A run that asks for a worker is what comes of the request. -/
theorem run_worker [Host] {d : Defaults} {serve : Worker.Request → Except Fault Worker.Exchange} {s : Settings}
    {limits : Limits} {timeout : Float} (hl : s.limits d = .ok limits) (ht : s.timeout = .ok timeout)
    (hw : s.usesWorker = true) (code : Text) :
    run d serve s code = (serve ⟨code, some timeout, .obj limits.toSettings⟩).bind Worker.ofExchange := by
  simp [run, hl, hw, ht, Worker.Request.ofSettings, bind, Except.bind, pure, Except.pure]

end LineScript
