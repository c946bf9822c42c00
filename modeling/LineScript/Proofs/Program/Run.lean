import LineScript.Program

/-! The run of a program, line by line. A line that is executed changes the state in the one way that
    `Stepped` describes; a run over some lines goes on with the lines after them; and a run that stops
    does so at one of its lines, in the state that the lines before it lead to. -/

namespace LineScript.Program

variable {limits : Limits} {s t : State} {line raw : Text} {number : Nat} {stop : Stop} {ls : List Text}

/-! ### Showing -/

theorem State.show_nil (limits : Limits) (s : State) : s.show limits [] = .ok s := rfl

theorem State.show_of_ne_nil (limits : Limits) (s : State) {text : Text} (h : text ≠ []) :
    s.show limits text =
      if limits.maxOutput < ((s.chars + text.length + 1 : Nat) : Int) then
        .error (.naming .outputLimit limits.maxOutput)
      else .ok { s with chars := s.chars + text.length + 1, shown := text :: s.shown } := by
  have h' : text.isEmpty = false := by simpa using h
  simp [State.show, h']

theorem output_ne_nil (shown : List Text) : output shown ≠ [] := by
  cases shown with
  | nil => decide
  | cons t ts => simp [output, String.toText, Text.ofChars]

/-! ### One line -/

variable [Host]

/-- What the execution of a line does to the state: it counts as a step that the memory suffices for, its effect
    is on the store, and a text it shows is counted with its line end. -/
structure Stepped (limits : Limits) (s : State) (line : Text) (effect : Effect) (t : State) : Prop where
  within : (s.steps : Int) + 1 ≤ limits.maxSteps
  holds : Host.givesOut s.steps s.store line = false
  runs : Statement.run limits.maxFactorial s.store line = .ok effect
  store : t.store = effect.store s.store
  steps : t.steps = s.steps + 1
  shown : (effect.shown = [] ∧ t.chars = s.chars ∧ t.shown = s.shown) ∨
    (effect.shown ≠ [] ∧ t.chars = s.chars + effect.shown.length + 1 ∧ (t.chars : Int) ≤ limits.maxOutput ∧
      t.shown = effect.shown :: s.shown)

/-- The effect of a line decides the state after it, under whatever limits. -/
theorem Stepped.unique {limits' : Limits} {effect : Effect} {t' : State} (h : Stepped limits s line effect t)
    (h' : Stepped limits' s line effect t') : t = t' := by
  have hstore : t.store = t'.store := h.store.trans h'.store.symm
  have hsteps : t.steps = t'.steps := h.steps.trans h'.steps.symm
  have hshown : t.chars = t'.chars ∧ t.shown = t'.shown := by
    rcases h.shown with ⟨hn, hc, hs⟩ | ⟨hn, hc, -, hs⟩ <;> rcases h'.shown with ⟨hn', hc', hs'⟩ | ⟨hn', hc', -, hs'⟩
    · exact ⟨hc.trans hc'.symm, hs.trans hs'.symm⟩
    · exact absurd hn hn'
    · exact absurd hn' hn
    · exact ⟨hc.trans hc'.symm, hs.trans hs'.symm⟩
  cases t
  cases t'
  obtain ⟨hchars, hshown⟩ := hshown
  congr

/-- The four ways in which a line fails: there are too many before it, the memory gives out, its statement fails,
    or it shows too much. -/
theorem State.step_cases (limits : Limits) (s : State) (line : Text) :
    (∃ effect t, s.step limits line = .ok t ∧ Stepped limits s line effect t) ∨
    (limits.maxSteps < (s.steps : Int) + 1 ∧ s.step limits line = .error (.naming .stepLimit limits.maxSteps)) ∨
    ((s.steps : Int) + 1 ≤ limits.maxSteps ∧ Host.givesOut s.steps s.store line = true ∧
      s.step limits line = .error .outOfMemory) ∨
    ((s.steps : Int) + 1 ≤ limits.maxSteps ∧ Host.givesOut s.steps s.store line = false ∧ ∃ cause,
      Statement.run limits.maxFactorial s.store line = .error cause ∧ s.step limits line = .error cause) ∨
    ((s.steps : Int) + 1 ≤ limits.maxSteps ∧ Host.givesOut s.steps s.store line = false ∧ ∃ effect,
      Statement.run limits.maxFactorial s.store line = .ok effect ∧ effect.shown ≠ [] ∧
      limits.maxOutput < ((s.chars + effect.shown.length + 1 : Nat) : Int) ∧
      s.step limits line = .error (.naming .outputLimit limits.maxOutput)) := by
  by_cases hs : limits.maxSteps < (s.steps : Int) + 1
  · exact Or.inr (Or.inl ⟨hs, by simp [State.step, hs]⟩)
  have hs' : (s.steps : Int) + 1 ≤ limits.maxSteps := Int.not_lt.mp hs
  by_cases hm : Host.givesOut s.steps s.store line = true
  · exact Or.inr (Or.inr (Or.inl ⟨hs', hm, by simp [State.step, hs, hm]⟩))
  have hm' : Host.givesOut s.steps s.store line = false := by simpa using hm
  cases he : Statement.run limits.maxFactorial s.store line with
  | error cause =>
    have hstep : s.step limits line = .error cause := by
      simp only [State.step, hs, hm, ↓reduceIte, he]
      rfl
    exact Or.inr (Or.inr (Or.inr (Or.inl ⟨hs', hm', cause, rfl, hstep⟩)))
  | ok effect =>
    have hstep : s.step limits line =
        State.show limits { s with store := effect.store s.store, steps := s.steps + 1 } effect.shown := by
      simp only [State.step, hs, hm, ↓reduceIte, he]
      rfl
    by_cases hnil : effect.shown = []
    · rw [hnil, State.show_nil] at hstep
      exact Or.inl ⟨effect, _, hstep, hs', hm', he, rfl, rfl, Or.inl ⟨hnil, rfl, rfl⟩⟩
    · rw [State.show_of_ne_nil _ _ hnil] at hstep
      split at hstep
      · next hout => exact Or.inr (Or.inr (Or.inr (Or.inr ⟨hs', hm', effect, rfl, hnil, hout, hstep⟩)))
      · next hout =>
        exact Or.inl ⟨effect, _, hstep, hs', hm', he, rfl, rfl, Or.inr ⟨hnil, rfl, Int.not_lt.mp hout, rfl⟩⟩

theorem State.stepped (h : s.step limits line = .ok t) : ∃ effect, Stepped limits s line effect t := by
  rcases s.step_cases limits line with ⟨effect, u, hu, hstep⟩ | ⟨-, he⟩ | ⟨-, -, he⟩ | ⟨-, -, _, -, he⟩ |
      ⟨-, -, _, -, -, -, he⟩
  · obtain rfl := Except.ok.inj (h.symm.trans hu)
    exact ⟨effect, hstep⟩
  all_goals rw [h] at he; cases he

theorem State.next_skipped (h : isSkipped (Text.trim raw) = true) : s.next limits number raw = .ok s := by
  simp [State.next, h]

theorem State.next_dispatched (h : isSkipped (Text.trim raw) = false) :
    s.next limits number raw =
      (s.step limits (Text.trim raw)).mapError fun cause => ⟨cause, number, Text.trim raw⟩ := by
  simp only [State.next, h, Bool.false_eq_true, ↓reduceIte]
  cases s.step limits (Text.trim raw) <;> rfl

theorem State.next_ok (h : s.next limits number raw = .ok t) :
    (isSkipped (Text.trim raw) = true ∧ t = s) ∨
      (isSkipped (Text.trim raw) = false ∧ s.step limits (Text.trim raw) = .ok t) := by
  cases hsk : isSkipped (Text.trim raw) with
  | true =>
    rw [State.next_skipped hsk] at h
    exact Or.inl ⟨rfl, (Except.ok.inj h).symm⟩
  | false =>
    rw [State.next_dispatched hsk] at h
    cases hst : s.step limits (Text.trim raw) with
    | error cause => rw [hst] at h; cases h
    | ok u =>
      rw [hst] at h
      obtain rfl := Except.ok.inj h
      exact Or.inr ⟨rfl, rfl⟩

theorem State.next_error (h : s.next limits number raw = .error stop) :
    isSkipped (Text.trim raw) = false ∧ s.step limits (Text.trim raw) = .error stop.cause ∧
      stop = ⟨stop.cause, number, Text.trim raw⟩ := by
  cases hsk : isSkipped (Text.trim raw) with
  | true => rw [State.next_skipped hsk] at h; cases h
  | false =>
    rw [State.next_dispatched hsk] at h
    cases hst : s.step limits (Text.trim raw) with
    | ok u => rw [hst] at h; cases h
    | error cause =>
      rw [hst] at h
      obtain rfl := Except.error.inj h
      exact ⟨rfl, rfl, rfl⟩

/-! ### Many lines -/

@[simp] theorem runLines_nil : runLines limits number s [] = .ok s := rfl

theorem runLines_cons_ok (h : s.next limits number raw = .ok t) :
    runLines limits number s (raw :: ls) = runLines limits (number + 1) t ls := by
  rw [runLines, h]
  rfl

theorem runLines_cons_error (h : s.next limits number raw = .error stop) :
    runLines limits number s (raw :: ls) = .error stop := by
  rw [runLines, h]
  rfl

/-- A run that gets through some lines goes on with those after them. -/
theorem runLines_append_ok {ls more : List Text} {s t : State} {number : Nat}
    (h : runLines limits number s ls = .ok t) :
    runLines limits number s (ls ++ more) = runLines limits (number + ls.length) t more := by
  induction ls generalizing s number with
  | nil =>
    obtain rfl := Except.ok.inj h
    rfl
  | cons raw ls ih =>
    cases hn : s.next limits number raw with
    | error stop => rw [runLines_cons_error hn] at h; cases h
    | ok u =>
      rw [runLines_cons_ok hn] at h
      rw [List.cons_append, runLines_cons_ok hn, ih h, List.length_cons, Nat.add_assoc, Nat.add_comm 1]

/-- A run that stops is not concerned with the lines after that. -/
theorem runLines_append_error {ls more : List Text} {s : State} {number : Nat}
    (h : runLines limits number s ls = .error stop) :
    runLines limits number s (ls ++ more) = .error stop := by
  induction ls generalizing s number with
  | nil => cases h
  | cons raw ls ih =>
    cases hn : s.next limits number raw with
    | error stop' =>
      rw [runLines_cons_error hn] at h
      rw [List.cons_append, runLines_cons_error hn, h]
    | ok u =>
      rw [runLines_cons_ok hn] at h
      rw [List.cons_append, runLines_cons_ok hn, ih h]

/-- The first lines of a run that ends well are run well. -/
theorem runLines_take_ok (h : runLines limits number s ls = .ok t) (k : Nat) :
    ∃ u, runLines limits number s (ls.take k) = .ok u ∧
      runLines limits (number + (ls.take k).length) u (ls.drop k) = .ok t := by
  cases hk : runLines limits number s (ls.take k) with
  | error stop =>
    rw [← List.take_append_drop k ls, runLines_append_error hk] at h
    cases h
  | ok u =>
    rw [← List.take_append_drop k ls, runLines_append_ok hk] at h
    exact ⟨u, rfl, h⟩

/-- What every step on one of the lines keeps, a run over the lines keeps. -/
theorem runLines_keeps {P : State → Prop} {ls : List Text} {s t : State} {number : Nat}
    (hstep : ∀ raw ∈ ls, ∀ s t, P s → s.step limits (Text.trim raw) = .ok t → P t)
    (h : runLines limits number s ls = .ok t) (hs : P s) : P t := by
  induction ls generalizing s number with
  | nil => exact Except.ok.inj h ▸ hs
  | cons raw ls ih =>
    obtain ⟨hraw, hls⟩ := List.forall_mem_cons.mp hstep
    cases hn : s.next limits number raw with
    | error stop => rw [runLines_cons_error hn] at h; cases h
    | ok u =>
      rw [runLines_cons_ok hn] at h
      rcases State.next_ok hn with ⟨-, rfl⟩ | ⟨-, hst⟩
      · exact ih hls h hs
      · exact ih hls h (hraw s u hs hst)

/-- Where and why a run stops: the lines before `index` lead to `state`, and the next one fails in it. -/
structure StopsAt (limits : Limits) (number : Nat) (s : State) (ls : List Text) (stop : Stop) (index : Nat)
    (raw : Text) (state : State) : Prop where
  found : ls[index]? = some raw
  before : runLines limits number s (ls.take index) = .ok state
  dispatched : isSkipped (Text.trim raw) = false
  fails : state.step limits (Text.trim raw) = .error stop.cause
  line : stop.line = number + index
  text : stop.text = Text.trim raw

theorem runLines_error {ls : List Text} {s : State} {number : Nat} (h : runLines limits number s ls = .error stop) :
    ∃ index raw state, StopsAt limits number s ls stop index raw state := by
  induction ls generalizing s number with
  | nil => cases h
  | cons raw ls ih =>
    cases hn : s.next limits number raw with
    | error stop' =>
      rw [runLines_cons_error hn] at h
      obtain rfl := Except.error.inj h
      obtain ⟨hsk, hst, he⟩ := State.next_error hn
      exact ⟨0, raw, s, rfl, rfl, hsk, hst, by rw [he]; rfl, by rw [he]⟩
    | ok u =>
      rw [runLines_cons_ok hn] at h
      obtain ⟨index, raw', state, hat⟩ := ih h
      refine ⟨index + 1, raw', state, hat.found, ?_, hat.dispatched, hat.fails, ?_, hat.text⟩
      · rw [List.take_succ_cons, runLines_cons_ok hn, hat.before]
      · rw [hat.line, Nat.add_assoc, Nat.add_comm 1]

/-- Whatever follows the failing line, the run stops there. -/
theorem StopsAt.stops {index : Nat} {state : State} (h : StopsAt limits number s ls stop index raw state)
    {ls' : List Text} (same : ls'.take (index + 1) = ls.take (index + 1)) :
    runLines limits number s ls' = .error stop := by
  have hlt : index < ls.length := (List.getElem?_eq_some_iff.mp h.found).1
  have hnext : state.next limits (number + index) raw = .error stop := by
    rw [State.next_dispatched h.dispatched, h.fails]
    show Except.error (Stop.mk stop.cause (number + index) (Text.trim raw)) = .error stop
    rw [← h.line, ← h.text]
  have hfirst : runLines limits number s (ls.take (index + 1)) = .error stop := by
    rw [List.take_add_one, h.found, runLines_append_ok h.before, List.length_take, Nat.min_eq_left (Nat.le_of_lt hlt)]
    exact runLines_cons_error hnext
  rw [← List.take_append_drop (index + 1) ls', same]
  exact runLines_append_error hfirst

theorem runLines_error_line (h : runLines limits number s ls = .error stop) : number ≤ stop.line := by
  obtain ⟨index, _, _, hat⟩ := runLines_error h
  rw [hat.line]
  exact Nat.le_add_right number index

/-! ### The whole program -/

theorem execute_ok_iff {code : Text} {shown : List Text} :
    execute limits code = .ok shown ↔
      ∃ t, runLines limits 1 .initial (Text.lines code) = .ok t ∧ t.shown.reverse = shown := by
  unfold execute
  cases runLines limits 1 .initial (Text.lines code) with
  | error stop => simp [bind, Except.bind]
  | ok t => simp [bind, Except.bind, pure, Except.pure]

theorem execute_error_iff {code : Text} :
    execute limits code = .error stop ↔ runLines limits 1 .initial (Text.lines code) = .error stop := by
  unfold execute
  cases runLines limits 1 .initial (Text.lines code) with
  | error stop => simp [bind, Except.bind]
  | ok t => simp [bind, Except.bind, pure, Except.pure]

/-- What has been shown stays shown. -/
theorem runLines_shown {ls : List Text} {s t : State} (h : runLines limits number s ls = .ok t) :
    s.shown <:+ t.shown := by
  refine runLines_keeps (P := fun u => s.shown <:+ u.shown) (fun raw _ u v hu hst => ?_) h (List.suffix_refl _)
  obtain ⟨effect, hstep⟩ := State.stepped hst
  rcases hstep.shown with ⟨-, -, hv⟩ | ⟨-, -, -, hv⟩
  · rwa [hv]
  · rw [hv]
    exact hu.trans (List.suffix_cons _ _)

end LineScript.Program
