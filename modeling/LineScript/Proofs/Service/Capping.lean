import LineScript.Proofs.Decimal.Order
import LineScript.Proofs.Run.Settings
import LineScript.Service.Caps

/-! The capping of settings. A client is granted each limit that it asks for, or the ceiling where that is lower,
    and asking for what was granted grants the same. The wait for a worker is capped by a comparison, so a wait
    that is no number compares with no ceiling and is granted as it is. -/

namespace LineScript

/-! ### Limits -/

/-- The limits, each at most its ceiling. -/
def Limits.capped (l : Limits) : Limits := ⟨min l.maxSteps 10000, min l.maxOutput 5000, min l.maxFactorial 20⟩

theorem Limits.capped_capped (l : Limits) : l.capped.capped = l.capped := by
  simp [Limits.capped]

namespace Service

variable {s : Settings} {c : Caps} {asked : Float}

/-! ### Waits -/

/-- The lesser of a wait and the longest is at most the longest exactly if the wait is a number. -/
theorem lesser_le_iff : lesser asked maxWait ≤ maxWait ↔ asked.isNaN = false := by
  have hnumber : maxWait.isNaN = false := rfl
  constructor
  · intro h
    refine Bool.eq_false_iff.mpr fun hnan => ?_
    have hstays : lesser asked maxWait = asked := if_neg (Decimal.not_lt_of_isNaN hnan)
    exact Decimal.not_le_of_isNaN hnan (hstays ▸ h)
  · intro h
    unfold lesser
    split
    · exact Decimal.le_of_not_lt hnumber hnumber (by decide)
    · next hle => exact Decimal.le_of_not_lt h hnumber hle

theorem lesser_lesser (asked ceiling : Float) : lesser (lesser asked ceiling) ceiling = lesser asked ceiling := by
  unfold lesser
  split
  · exact ite_self ceiling
  · rfl

/-! ### Capping -/

theorem cap_ok_iff : cap s = .ok c ↔
    ∃ asked, s.limits .standard = .ok asked ∧ c.limits = asked.capped ∧
      ((s.usesWorker = false ∧ c.wait = none) ∨
        (s.usesWorker = true ∧ ∃ seconds, s.timeout = .ok seconds ∧ c.wait = some (lesser seconds maxWait))) := by
  constructor
  · intro h
    obtain ⟨asked, hasked, h⟩ := bind_ok_iff.mp h
    refine ⟨asked, hasked, ?_⟩
    dsimp only at h
    split at h
    · next hworker =>
      obtain ⟨seconds, hseconds, h⟩ := bind_ok_iff.mp h
      obtain rfl := Except.ok.inj h
      exact ⟨rfl, Or.inr ⟨hworker, seconds, hseconds, rfl⟩⟩
    · next hworker =>
      obtain rfl := Except.ok.inj h
      exact ⟨rfl, Or.inl ⟨Bool.eq_false_iff.mpr hworker, rfl⟩⟩
  · rintro ⟨asked, hasked, hlimits, hwait⟩
    obtain ⟨limits, wait⟩ := c
    obtain rfl : limits = asked.capped := hlimits
    refine bind_ok_iff.mpr ⟨asked, hasked, ?_⟩
    rcases hwait with ⟨hworker, rfl⟩ | ⟨hworker, seconds, hseconds, rfl⟩
    · rw [if_neg (Bool.eq_false_iff.mp hworker)]
      rfl
    · rw [if_pos hworker]
      exact bind_ok_iff.mpr ⟨seconds, hseconds, rfl⟩

/-- What is granted is granted again. -/
theorem cap_toSettings (h : cap s = .ok c) : cap c.toSettings = .ok c := by
  obtain ⟨asked, -, hlimits, hwait⟩ := cap_ok_iff.mp h
  refine cap_ok_iff.mpr ⟨c.limits, Settings.limits_toSettings _ _ _, ?_, ?_⟩
  · rw [hlimits, Limits.capped_capped]
  · rcases hwait with ⟨-, hnone⟩ | ⟨-, seconds, -, hsome⟩
    · refine Or.inl ⟨?_, hnone⟩
      rw [Caps.toSettings, hnone]
      rfl
    · refine Or.inr ⟨?_, lesser seconds maxWait, ?_, ?_⟩
      · rw [Caps.toSettings, hsome]
        rfl
      · rw [Caps.toSettings, hsome]
        rfl
      · rw [hsome, lesser_lesser]

/-! ### What is granted -/

/-- The limits that a client may set, with their ceilings. -/
def ceilings : List (Text × Int) :=
  [(Settings.maxStepsKey, 10000), (Settings.maxOutputKey, 5000), (Settings.maxFactorialKey, 20)]

theorem cap_limits (h : cap s = .ok c) : ∀ m ∈ ceilings, ∃ n,
    (s.get m.1 (.int m.2)).toInteger = .ok n ∧ Json.lookup m.1 c.toSettings = some (.int (min n m.2)) := by
  obtain ⟨asked, hasked, hlimits, -⟩ := cap_ok_iff.mp h
  obtain ⟨hsteps, houtput, hfactorial⟩ := Settings.limits_ok hasked
  intro m hm
  simp only [ceilings, List.mem_cons, List.not_mem_nil, or_false] at hm
  rw [Caps.toSettings, hlimits]
  rcases hm with rfl | rfl | rfl
  · exact ⟨asked.maxSteps, hsteps, rfl⟩
  · exact ⟨asked.maxOutput, houtput, rfl⟩
  · exact ⟨asked.maxFactorial, hfactorial, rfl⟩

theorem cap_names (h : cap s = .ok c) : c.toSettings.map Prod.fst =
    ceilings.map Prod.fst ++ if s.usesWorker then [Settings.workerKey, Settings.timeoutKey] else [] := by
  obtain ⟨-, -, -, ⟨hworker, hnone⟩ | ⟨hworker, seconds, -, hsome⟩⟩ := cap_ok_iff.mp h
  · rw [Caps.toSettings, hnone, hworker]
    rfl
  · rw [Caps.toSettings, hsome, hworker]
    rfl

theorem cap_wait (h : cap s = .ok c) {wait : Json} (hwait : Json.lookup Settings.timeoutKey c.toSettings = some wait) :
    ∃ asked, s.timeout = .ok asked ∧ wait = .float (lesser asked maxWait) := by
  obtain ⟨-, -, -, ⟨-, hnone⟩ | ⟨-, seconds, hseconds, hsome⟩⟩ := cap_ok_iff.mp h
  · rw [Caps.toSettings, hnone] at hwait
    cases hwait
  · rw [Caps.toSettings, hsome] at hwait
    obtain rfl := Option.some.inj hwait
    exact ⟨seconds, hseconds, rfl⟩

/-- A client is granted no more than the ceilings: of each limit the one asked for or the ceiling, whichever is lower;
    a worker and its wait just if it asks for a worker; a wait of at most five seconds unless it asks for one that is
    no number; and nothing else. What is granted is granted again. -/
theorem cap_grants (h : cap s = .ok c) :
    (∀ m ∈ ceilings, ∃ n, (s.get m.1 (.int m.2)).toInteger = .ok n ∧
      Json.lookup m.1 c.toSettings = some (.int (min n m.2))) ∧
    (∀ wait, Json.lookup Settings.timeoutKey c.toSettings = some wait →
      ∃ asked, s.timeout = .ok asked ∧ wait = .float (lesser asked maxWait) ∧
        (lesser asked maxWait ≤ 5 ↔ asked.isNaN = false)) ∧
    c.toSettings.map Prod.fst =
      ceilings.map Prod.fst ++ (if s.usesWorker then [Settings.workerKey, Settings.timeoutKey] else []) ∧
    cap c.toSettings = .ok c := by
  refine ⟨cap_limits h, fun wait hwait => ?_, cap_names h, cap_toSettings h⟩
  obtain ⟨asked, hasked, hgranted⟩ := cap_wait h hwait
  exact ⟨asked, hasked, hgranted, lesser_le_iff⟩

/-- A client that asks for an endless wait and a number of steps below zero, both in words. -/
theorem cap_grants_endless :
    ∃ c, cap [(Settings.workerKey, .int 1), (Settings.timeoutKey, .str "Infinity".toText),
        (Settings.maxStepsKey, .str " -7 ".toText)] = .ok c ∧
      Json.lookup Settings.maxStepsKey c.toSettings = some (.int (-7)) ∧
      (∃ seconds : Float, Json.lookup Settings.timeoutKey c.toSettings = some (.float seconds) ∧ seconds ≤ 5) ∧
      cap c.toSettings = .ok c := by
  have hcap : cap [(Settings.workerKey, .int 1), (Settings.timeoutKey, .str "Infinity".toText),
    (Settings.maxStepsKey, .str " -7 ".toText)] = .ok ⟨⟨-7, 5000, 20⟩, some _⟩ := rfl
  obtain ⟨hlimits, hwait, -, hagain⟩ := cap_grants hcap
  obtain ⟨n, hn, hsteps⟩ := hlimits (Settings.maxStepsKey, 10000) (by simp [ceilings])
  obtain rfl : -7 = n := Except.ok.inj hn
  obtain ⟨asked, hasked, hgranted, hle⟩ := hwait _ rfl
  have hnumber : asked.isNaN = false := by
    obtain rfl := Except.ok.inj hasked
    rfl
  exact ⟨_, hcap, hsteps, ⟨lesser asked maxWait, congrArg some hgranted, hle.mpr hnumber⟩, hagain⟩

/-- A wait that is no number is granted, and is not at most five seconds. -/
theorem cap_undefined_wait :
    ∃ c seconds, cap [(Settings.workerKey, .bool true), (Settings.timeoutKey, .str "nan".toText)] = .ok c ∧
      Json.lookup Settings.timeoutKey c.toSettings = some (.float seconds) ∧ ¬seconds ≤ 5 :=
  ⟨_, _, rfl, rfl, Decimal.not_le_of_isNaN rfl⟩

end Service
end LineScript
