import LineScript.Proofs.Program.Run
import Mathlib.Algebra.GroupWithZero.Nat

/-! What a run counts. The steps of a run are its executed lines, and the characters are those of its
    output; both stay within the limits, and so does the argument of every factorial. -/

namespace LineScript.Program

variable {limits : Limits} {s t : State} {line code : Text} {ls shown : List Text}

/-! ### Lines and characters -/

/-- The lines of a program that a run executes. -/
def dispatched (ls : List Text) : List Text := ls.filter fun raw => !isSkipped (Text.trim raw)

theorem dispatched_skipped {raw : Text} (h : isSkipped (Text.trim raw) = true) :
    dispatched (raw :: ls) = dispatched ls :=
  List.filter_cons_of_neg (by simp [h])

theorem dispatched_executed {raw : Text} (h : isSkipped (Text.trim raw) = false) :
    dispatched (raw :: ls) = raw :: dispatched ls :=
  List.filter_cons_of_pos (by simp [h])

/-- The characters of texts with a line end for each. -/
def charsOf (shown : List Text) : Nat := (shown.map fun t => t.length + 1).sum

/-- The counts of a run are within the limits, and the characters are those of the texts. -/
structure State.Counted (limits : Limits) (s : State) : Prop where
  steps : s.steps = 0 ∨ (s.steps : Int) ≤ limits.maxSteps
  chars : s.chars = charsOf s.shown
  within : s.shown = [] ∨ (s.chars : Int) ≤ limits.maxOutput

theorem State.counted_initial (limits : Limits) : State.initial.Counted limits := ⟨Or.inl rfl, rfl, Or.inl rfl⟩

theorem State.Counted.step [Host] (hs : s.Counted limits) (h : s.step limits line = .ok t) : t.Counted limits := by
  obtain ⟨effect, hstep⟩ := State.stepped h
  have hsteps : (t.steps : Int) ≤ limits.maxSteps := by
    rw [hstep.steps]
    exact hstep.within
  rcases hstep.shown with ⟨-, hchars, hshown⟩ | ⟨-, hchars, hwithin, hshown⟩
  · refine ⟨Or.inr hsteps, ?_, ?_⟩
    · rw [hchars, hshown, hs.chars]
    · rw [hchars, hshown]
      exact hs.within
  · refine ⟨Or.inr hsteps, ?_, Or.inr hwithin⟩
    rw [hchars, hshown, hs.chars, charsOf, charsOf, List.map_cons, List.sum_cons]
    omega

theorem runLines_counted [Host] {number : Nat} (hs : s.Counted limits) (h : runLines limits number s ls = .ok t) :
    t.Counted limits :=
  runLines_keeps (fun _ _ _ _ hu hst => hu.step hst) h hs

theorem runLines_steps [Host] {number : Nat} {ls : List Text} {s t : State}
    (h : runLines limits number s ls = .ok t) :
    t.steps = s.steps + (dispatched ls).length := by
  induction ls generalizing s number with
  | nil =>
    obtain rfl := Except.ok.inj h
    rfl
  | cons raw ls ih =>
    cases hn : s.next limits number raw with
    | error stop => rw [runLines_cons_error hn] at h; cases h
    | ok u =>
      rw [runLines_cons_ok hn] at h
      rcases State.next_ok hn with ⟨hsk, rfl⟩ | ⟨hsk, hst⟩
      · rw [ih h, dispatched_skipped hsk]
      · obtain ⟨effect, hstep⟩ := State.stepped hst
        rw [ih h, hstep.steps, dispatched_executed hsk, List.length_cons]
        omega

theorem length_output (h : shown ≠ []) : (output shown).length = charsOf shown := by
  have hne : shown.isEmpty = false := by simpa using h
  have feed : "\n".toText.length = 1 := rfl
  simp [output, hne, List.length_flatMap, charsOf, feed]

/-- A program that succeeds has no more lines to execute than steps are allowed. -/
theorem execute_steps [Host] (h : execute limits code = .ok shown) :
    dispatched (Text.lines code) = [] ∨ ((dispatched (Text.lines code)).length : Int) ≤ limits.maxSteps := by
  obtain ⟨t, hrun, -⟩ := execute_ok_iff.mp h
  have hsteps := runLines_steps hrun
  have hinitial : State.initial.steps = 0 := rfl
  rw [hinitial, Nat.zero_add] at hsteps
  rcases (runLines_counted (State.counted_initial limits) hrun).steps with hzero | hle
  · exact Or.inl (List.eq_nil_of_length_eq_zero (hsteps.symm.trans hzero))
  · exact Or.inr (hsteps ▸ hle)

/-- The output of a program that shows something is not longer than allowed. -/
theorem execute_chars [Host] (h : execute limits code = .ok shown) :
    shown = [] ∨ ((output shown).length : Int) ≤ limits.maxOutput := by
  obtain ⟨t, hrun, rfl⟩ := execute_ok_iff.mp h
  have hcounted := runLines_counted (State.counted_initial limits) hrun
  rcases hcounted.within with hnil | hle
  · exact Or.inl (by rw [hnil]; rfl)
  · by_cases hnil : t.shown = []
    · exact Or.inl (by rw [hnil]; rfl)
    · right
      have hsame : charsOf t.shown.reverse = charsOf t.shown := by
        rw [charsOf, charsOf, List.map_reverse, List.sum_reverse]
      rw [length_output (by simpa using hnil), hsame, ← hcounted.chars]
      exact hle

/-! ### Factorials -/

/-- The line with the given index calls the factorial, in the state that the lines before it lead to and
    with an argument whose value is `n`. -/
structure Computes [Host] (limits : Limits) (code : Text) (index : Nat) (n : Int) (raw argument : Text)
    (s : State) : Prop where
  found : (Text.lines code)[index]? = some raw
  dispatched : isSkipped (Text.trim raw) = false
  before : runLines limits 1 .initial ((Text.lines code).take index) = .ok s
  call : Statement.ofLine (Text.trim raw) = .call
  called : Builtin.called? (Text.trim raw) = some .factorial
  arguments : Builtin.factorial.arguments (Text.trim raw) = .ok argument
  value : evaluate s.store argument = .ok (.integer n)

theorem callFactorial_le [Host] {limit n : Int} {store : Store} {argument text : Text}
    (h : Builtin.callFactorial limit store argument = .ok text) (hn : evaluate store argument = .ok (.integer n)) :
    n ≤ limit := by
  simp only [Builtin.callFactorial, hn, bind, Except.bind] at h
  split at h
  · cases h
  · next hlt => exact Int.not_lt.mp hlt

/-- A program that succeeds has computed no factorial beyond the limit. -/
theorem execute_factorial [Host] {index : Nat} {n : Int} {raw argument : Text}
    (h : execute limits code = .ok shown) (hn : Computes limits code index n raw argument s) :
    n ≤ limits.maxFactorial := by
  obtain ⟨t, hrun, -⟩ := execute_ok_iff.mp h
  obtain ⟨u, hu, hrest⟩ := runLines_take_ok hrun index
  obtain rfl := Except.ok.inj (hn.before.symm.trans hu)
  obtain ⟨hlt, hraw⟩ := List.getElem?_eq_some_iff.mp hn.found
  rw [List.drop_eq_getElem_cons hlt, hraw] at hrest
  cases hnext : s.next limits (1 + ((Text.lines code).take index).length) raw with
  | error stop => rw [runLines_cons_error hnext] at hrest; cases hrest
  | ok v =>
    rcases State.next_ok hnext with ⟨hsk, -⟩ | ⟨-, hst⟩
    · exact Bool.noConfusion (hsk.symm.trans hn.dispatched)
    · obtain ⟨effect, hstep⟩ := State.stepped hst
      have hruns := hstep.runs
      simp only [Statement.run, hn.call, Statement.runCall, Builtin.call, hn.called, hn.arguments, bind,
        Except.bind] at hruns
      split at hruns
      · cases hruns
      · next text htext => exact callFactorial_le htext hn.value

end LineScript.Program
