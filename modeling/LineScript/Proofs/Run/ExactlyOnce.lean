import LineScript.Run.Delivery
import Mathlib.Data.List.Infix

/-! Every job is delivered exactly once, in whatever order the pool, the loop and the callers take their steps. What
    becomes of a ticket depends only on its own job and on the steps that are taken on it, and of those only on
    two things: how far they go through finishing, calling back and settling, in this order, and whether a
    cancellation comes before the end of that. -/

namespace LineScript.Delivery

/-! ### One ticket among others -/

/-- What is done to one ticket. -/
inductive Act where
  | finish
  | call
  | settle
  | cancel
deriving DecidableEq, Repr

/-- What an event does to the ticket with the number `i`. -/
def Event.act? (i : Nat) : Event → Option Act
  | .submit _ => none
  | .finish j => if j = i then some .finish else none
  | .call j => if j = i then some .call else none
  | .settle j => if j = i then some .settle else none
  | .cancel j => if j = i then some .cancel else none

/-- What an act does to a ticket. -/
def Act.apply (runner : Runner) : Act → Ticket → Ticket
  | .finish => Ticket.finish runner
  | .call => Ticket.call
  | .settle => Ticket.settle
  | .cancel => Ticket.cancel

/-- The ticket after acts, one behind the other. -/
def Ticket.perform (runner : Runner) (t : Ticket) (acts : List Act) : Ticket :=
  acts.foldl (fun t act => act.apply runner t) t

/-- The job that is submitted as the ticket `i`, and what is done to the ticket after that; `n` tickets are there
    before. -/
def share (i : Nat) : Nat → List Event → Option (Job × List Act)
  | _, [] => none
  | n, .submit job :: rest => if n = i then some (job, rest.filterMap (Event.act? i)) else share i (n + 1) rest
  | n, _ :: rest => share i n rest

variable {runner : Runner} {d : Desk} {t : Ticket} {i : Nat} {job : Job} {acts : List Act} {events : List Event}

/-- An event changes a ticket by what it does to it, and no other ticket. -/
theorem step_ticket (e : Event) (h : d.tickets[i]? = some t) :
    (d.step runner e).tickets[i]? = some ((e.act? i).elim t fun act => act.apply runner t) := by
  have hmodify (f : Ticket → Ticket) (j : Nat) (act : Act) (hact : act.apply runner = f) :
      (d.tickets.modify j f)[i]? =
        some ((if j = i then some act else none : Option Act).elim t fun act => act.apply runner t) := by
    rw [List.getElem?_modify, h, ← hact]
    by_cases hj : j = i
    · rw [if_pos hj]
      exact congrArg some (if_pos hj)
    · rw [if_neg hj]
      exact congrArg some (if_neg hj)
  cases e with
  | submit job => exact (List.getElem?_append_left (List.getElem?_eq_some_iff.mp h).1).trans h
  | finish j => exact hmodify _ j .finish rfl
  | call j => exact hmodify _ j .call rfl
  | settle j => exact hmodify _ j .settle rfl
  | cancel j => exact hmodify _ j .cancel rfl

theorem run_ticket (h : d.tickets[i]? = some t) :
    (d.run runner events).tickets[i]? = some (t.perform runner (events.filterMap (Event.act? i))) := by
  induction events generalizing d t with
  | nil => exact h
  | cons e rest ih =>
    rw [show d.run runner (e :: rest) = (d.step runner e).run runner rest from rfl, ih (step_ticket e h)]
    cases hact : e.act? i with
    | none => rw [List.filterMap_cons_none hact]; rfl
    | some act => rw [List.filterMap_cons_some hact]; rfl

theorem length_step (runner : Runner) (d : Desk) (e : Event) :
    (d.step runner e).tickets.length = d.tickets.length + if e matches .submit _ then 1 else 0 := by
  cases e with
  | submit job => exact List.length_append
  | _ => exact List.length_modify ..

/-- A ticket is what is made of its own share, whatever is done to other tickets. -/
theorem run_share (h : d.tickets.length ≤ i) :
    (d.run runner events).tickets[i]? =
      (share i d.tickets.length events).map fun s => (Ticket.ofJob s.1).perform runner s.2 := by
  induction events generalizing d with
  | nil => exact List.getElem?_eq_none h
  | cons e rest ih =>
    rw [show d.run runner (e :: rest) = (d.step runner e).run runner rest from rfl]
    have hlength := length_step runner d e
    cases e with
    | submit job =>
      rw [share]
      by_cases hi : d.tickets.length = i
      · have hnew : (d.step runner (.submit job)).tickets[i]? = some (.ofJob job) := by
          rw [← hi]
          exact List.getElem?_concat_length
        rw [if_pos hi, run_ticket hnew]
        rfl
      · rw [if_neg hi, ih (by rw [hlength]; exact Nat.lt_of_le_of_ne h hi), hlength]
        rfl
    | _ => exact (ih (by rw [hlength]; exact h)).trans (by rw [hlength]; rfl)

/-- The jobs that are submitted, in order. -/
def submitted (events : List Event) : List Job :=
  events.filterMap fun
    | .submit job => some job
    | _ => none

theorem submitted_eq_share {n : Nat} (h : n ≤ i) : (submitted events)[i - n]? = (share i n events).map Prod.fst := by
  fun_induction share i n events with
  | case1 => rfl
  | case2 job rest =>
    rw [Nat.sub_self]
    rfl
  | case3 n job rest hn ih =>
    have hlt : n < i := Nat.lt_of_le_of_ne h hn
    rw [← ih hlt, show i - n = i - (n + 1) + 1 by omega]
    rfl
  | case4 n e rest hsubmit ih =>
    rw [← ih h]
    cases e with
    | submit job => exact absurd rfl (hsubmit job)
    | _ => rfl

/-- Cancellations of the ticket `j` left out of the events, and its job given another callback. -/
def excuse (j : Nat) (callback : Callback) : Nat → List Event → List Event
  | _, [] => []
  | n, .submit job :: rest =>
    .submit (if n = j then { job with callback := callback } else job) :: excuse j callback (n + 1) rest
  | n, .cancel k :: rest => if k = j then excuse j callback n rest else .cancel k :: excuse j callback n rest
  | n, e :: rest => e :: excuse j callback n rest

variable {j : Nat} {callback : Callback}

theorem filterMap_excuse (h : j ≠ i) (n : Nat) :
    (excuse j callback n events).filterMap (Event.act? i) = events.filterMap (Event.act? i) := by
  fun_induction excuse j callback n events with
  | case1 => rfl
  | case2 n job rest ih => rw [List.filterMap_cons_none rfl, List.filterMap_cons_none rfl, ih]
  | case3 n rest ih =>
    have hother : (Event.cancel j).act? i = none := if_neg h
    rw [List.filterMap_cons_none hother, ih]
  | case4 n k rest hk ih => rw [List.filterMap_cons, List.filterMap_cons, ih]
  | case5 n e rest hsubmit hcancel ih => rw [List.filterMap_cons, List.filterMap_cons, ih]

/-- What is done to one ticket is no part of the share of another. -/
theorem share_excuse (h : j ≠ i) (n : Nat) : share i n (excuse j callback n events) = share i n events := by
  fun_induction excuse j callback n events with
  | case1 => rfl
  | case2 n job rest ih =>
    rw [share, share, ih]
    by_cases hn : n = i
    · rw [if_pos hn, if_pos hn, if_neg fun hj => h (hj.symm.trans hn), filterMap_excuse h]
    · rw [if_neg hn, if_neg hn]
  | case3 n rest ih => exact ih
  | case4 n k rest hk ih => rw [share, share, ih] <;> exact fun _ he => nomatch he
  | case5 n e rest hsubmit hcancel ih => rw [share, share, ih] <;> exact hsubmit

/-! ### How far a delivery gets -/

/-- A whole delivery. -/
def delivery : List Act := [.finish, .call, .settle]

/-- The acts go through the steps of a delivery up to the given ones. -/
def Through (steps acts : List Act) : Prop := steps.Sublist acts

/-- A cancellation comes before the end of the delivery. -/
def Withdrawn (acts : List Act) : Prop := ∃ before after, acts = before ++ .cancel :: after ∧ ¬Through delivery before

theorem concat_sublist_concat_iff {α : Type} {l m : List α} {x y : α} :
    (l ++ [x]).Sublist (m ++ [y]) ↔ (l ++ [x]).Sublist m ∨ x = y ∧ l.Sublist m := by
  rw [← List.reverse_sublist, List.reverse_concat, List.reverse_concat, List.cons_sublist_cons',
    ← List.reverse_concat, List.reverse_sublist, List.reverse_sublist]

theorem through_finish (act : Act) : Through [.finish] (acts ++ [act]) ↔ Through [.finish] acts ∨ .finish = act := by
  have h := concat_sublist_concat_iff (l := []) (m := acts) (x := .finish) (y := act)
  rwa [and_iff_left (List.nil_sublist acts)] at h

theorem through_call (act : Act) :
    Through [.finish, .call] (acts ++ [act]) ↔ Through [.finish, .call] acts ∨ .call = act ∧ Through [.finish] acts :=
  concat_sublist_concat_iff (l := [Act.finish])

theorem through_delivery (act : Act) :
    Through delivery (acts ++ [act]) ↔ Through delivery acts ∨ .settle = act ∧ Through [.finish, .call] acts :=
  concat_sublist_concat_iff (l := [Act.finish, Act.call])

theorem withdrawn_concat (act : Act) :
    Withdrawn (acts ++ [act]) ↔ Withdrawn acts ∨ .cancel = act ∧ ¬Through delivery acts := by
  constructor
  · rintro ⟨before, after, heq, hbefore⟩
    rcases List.eq_nil_or_concat after with rfl | ⟨after, last, rfl⟩
    · obtain ⟨rfl, hact⟩ := List.append_inj' heq rfl
      exact Or.inr ⟨(List.singleton_inj.mp hact).symm, hbefore⟩
    · rw [List.concat_eq_append, ← List.cons_append, ← List.append_assoc] at heq
      exact Or.inl ⟨before, after, (List.append_inj' heq rfl).1, hbefore⟩
  · rintro (⟨before, after, rfl, hbefore⟩ | ⟨rfl, hacts⟩)
    · exact ⟨before, after ++ [act], by rw [List.append_assoc, List.cons_append], hbefore⟩
    · exact ⟨acts, [], rfl, hacts⟩

/-! ### What a ticket is after its share -/

/-- The result of a job. -/
def Job.result (runner : Runner) (job : Job) : Report := runner.report job.settings job.source

/-- The phase says how far the delivery of a result has got. -/
def Phase.Fits (result : Report) (acts : List Act) : Phase → Prop
  | .running => ¬Through [.finish] acts
  | .posted r => r = result ∧ Through [.finish] acts ∧ ¬Through [.finish, .call] acts
  | .called r => r = result ∧ Through [.finish, .call] acts ∧ ¬Through delivery acts
  | .delivered => Through delivery acts

/-- The future is cancelled if it was before the end of the delivery, and else holds the result after it. -/
def Future.Fits (result : Report) (acts : List Act) : Future → Prop
  | .pending => ¬Through delivery acts ∧ ¬Withdrawn acts
  | .resolved r => r = result ∧ Through delivery acts ∧ ¬Withdrawn acts
  | .cancelled => Withdrawn acts

/-- The callback is called with the result once that is due, if there is a callback. -/
structure Called (result : Report) (job : Job) (acts : List Act) (calls : List Report) : Prop where
  due : job.callback ≠ .none → Through [.finish, .call] acts → calls = [result]
  early : ¬Through [.finish, .call] acts → calls = []
  without : job.callback = .none → calls = []

/-- What the acts have made of the ticket of a job. -/
structure Performed (result : Report) (job : Job) (acts : List Act) (t : Ticket) : Prop where
  same : t.job = job
  phase : t.phase.Fits result acts
  future : t.future.Fits result acts
  calls : Called result job acts t.calls

theorem through_of_delivery (h : Through delivery acts) : Through [.finish, .call] acts :=
  List.Sublist.trans (by decide) h

theorem through_of_call (h : Through [.finish, .call] acts) : Through [.finish] acts := List.Sublist.trans (by decide) h

variable {result : Report}

theorem performed_ofJob (result : Report) (job : Job) : Performed result job [] (.ofJob job) := by
  have hnot {step : Act} {steps : List Act} : ¬Through (step :: steps) [] := fun h => nomatch List.sublist_nil.mp h
  refine ⟨rfl, hnot, ⟨hnot, ?_⟩, fun _ h => absurd h hnot, fun _ => rfl, fun _ => rfl⟩
  rintro ⟨before, after, heq, -⟩
  exact List.cons_ne_nil _ _ (List.append_eq_nil_iff.mp heq.symm).2

theorem Future.Fits.congr {before after : List Act} {f : Future} (h : f.Fits result before)
    (hdelivery : Through delivery after ↔ Through delivery before) (hwithdrawn : Withdrawn after ↔ Withdrawn before) :
    f.Fits result after := by
  cases f with
  | pending => exact ⟨mt hdelivery.mp h.1, mt hwithdrawn.mp h.2⟩
  | resolved r => exact ⟨h.1, hdelivery.mpr h.2.1, mt hwithdrawn.mp h.2.2⟩
  | cancelled => exact hwithdrawn.mpr h

theorem Called.congr {before after : List Act} {calls : List Report} (h : Called result job before calls)
    (hcall : Through [.finish, .call] after ↔ Through [.finish, .call] before) : Called result job after calls :=
  ⟨fun hjob hafter => h.due hjob (hcall.mp hafter), fun hafter => h.early (mt hcall.mpr hafter), h.without⟩

theorem Performed.finish (h : Performed (job.result runner) job acts t) :
    Performed (job.result runner) job (acts ++ [.finish]) (t.finish runner) := by
  obtain ⟨hsame, hphase, hfuture, hcalls⟩ := h
  have hfinish : Through [.finish] (acts ++ [.finish]) := (through_finish _).mpr (Or.inr rfl)
  have hcall : Through [.finish, .call] (acts ++ [.finish]) ↔ Through [.finish, .call] acts := by simp [through_call]
  have hdelivery : Through delivery (acts ++ [.finish]) ↔ Through delivery acts := by simp [through_delivery]
  have hwithdrawn : Withdrawn (acts ++ [.finish]) ↔ Withdrawn acts := by simp [withdrawn_concat]
  have hfuture := hfuture.congr hdelivery hwithdrawn
  have hcalls := hcalls.congr hcall
  obtain ⟨j, phase, future, calls⟩ := t
  cases phase with
  | running =>
    obtain rfl : j = job := hsame
    exact ⟨rfl, ⟨rfl, hfinish, fun h => hphase (through_of_call (hcall.mp h))⟩, hfuture, hcalls⟩
  | posted r => exact ⟨hsame, ⟨hphase.1, hfinish, mt hcall.mp hphase.2.2⟩, hfuture, hcalls⟩
  | called r => exact ⟨hsame, ⟨hphase.1, hcall.mpr hphase.2.1, mt hdelivery.mp hphase.2.2⟩, hfuture, hcalls⟩
  | delivered => exact ⟨hsame, hdelivery.mpr hphase, hfuture, hcalls⟩

theorem Performed.call (h : Performed result job acts t) : Performed result job (acts ++ [.call]) t.call := by
  obtain ⟨hsame, hphase, hfuture, hcalls⟩ := h
  have hfinish : Through [.finish] (acts ++ [.call]) ↔ Through [.finish] acts := by simp [through_finish]
  have hcall : Through [.finish, .call] (acts ++ [.call]) ↔ Through [.finish] acts := by
    simpa [through_call] using through_of_call
  have hdelivery : Through delivery (acts ++ [.call]) ↔ Through delivery acts := by simp [through_delivery]
  have hwithdrawn : Withdrawn (acts ++ [.call]) ↔ Withdrawn acts := by simp [withdrawn_concat]
  have hfuture := hfuture.congr hdelivery hwithdrawn
  obtain ⟨j, phase, future, calls⟩ := t
  obtain rfl : j = job := hsame
  cases phase with
  | running =>
    have hnot : Through [.finish, .call] (acts ++ [.call]) ↔ Through [.finish, .call] acts :=
      ⟨fun h => absurd (hcall.mp h) hphase, fun h => absurd (through_of_call h) hphase⟩
    exact ⟨rfl, mt hfinish.mp hphase, hfuture, hcalls.congr hnot⟩
  | posted r =>
    obtain ⟨rfl, hfinished, hnotcalled⟩ := hphase
    have hdue : Through [.finish, .call] (acts ++ [.call]) := hcall.mpr hfinished
    refine ⟨rfl, ⟨rfl, hdue, fun h => hnotcalled (through_of_delivery (hdelivery.mp h))⟩, hfuture, ?_⟩
    have hnone : calls = [] := hcalls.early hnotcalled
    refine ⟨fun hjob _ => ?_, fun h => absurd hdue h, fun hjob => (if_pos hjob).trans hnone⟩
    exact (if_neg hjob).trans (congrArg (· ++ [r]) hnone)
  | called r =>
    have hsame : Through [.finish, .call] (acts ++ [.call]) ↔ Through [.finish, .call] acts :=
      ⟨fun _ => hphase.2.1, fun h => hcall.mpr (through_of_call h)⟩
    exact ⟨rfl, ⟨hphase.1, hsame.mpr hphase.2.1, mt hdelivery.mp hphase.2.2⟩, hfuture, hcalls.congr hsame⟩
  | delivered =>
    have hsame : Through [.finish, .call] (acts ++ [.call]) ↔ Through [.finish, .call] acts :=
      ⟨fun _ => through_of_delivery hphase, fun h => hcall.mpr (through_of_call h)⟩
    exact ⟨rfl, hdelivery.mpr hphase, hfuture, hcalls.congr hsame⟩

theorem Performed.settle (h : Performed result job acts t) : Performed result job (acts ++ [.settle]) t.settle := by
  obtain ⟨hsame, hphase, hfuture, hcalls⟩ := h
  have hfinish : Through [.finish] (acts ++ [.settle]) ↔ Through [.finish] acts := by simp [through_finish]
  have hcall : Through [.finish, .call] (acts ++ [.settle]) ↔ Through [.finish, .call] acts := by simp [through_call]
  have hdelivery : Through delivery (acts ++ [.settle]) ↔ Through [.finish, .call] acts := by
    simpa [through_delivery] using through_of_delivery
  have hwithdrawn : Withdrawn (acts ++ [.settle]) ↔ Withdrawn acts := by simp [withdrawn_concat]
  have hcalls := hcalls.congr hcall
  have hearly (hnot : ¬Through [.finish, .call] acts) : Through delivery (acts ++ [.settle]) ↔ Through delivery acts :=
    ⟨fun h => absurd (hdelivery.mp h) hnot, fun h => absurd (through_of_delivery h) hnot⟩
  obtain ⟨j, phase, future, calls⟩ := t
  cases phase with
  | running =>
    have hnot : ¬Through [.finish, .call] acts := mt through_of_call hphase
    exact ⟨hsame, mt hfinish.mp hphase, hfuture.congr (hearly hnot) hwithdrawn, hcalls⟩
  | posted r =>
    obtain ⟨hr, hfinished, hnot⟩ := hphase
    exact ⟨hsame, ⟨hr, hfinish.mpr hfinished, mt hcall.mp hnot⟩, hfuture.congr (hearly hnot) hwithdrawn, hcalls⟩
  | called r =>
    obtain ⟨rfl, hcalled, hnot⟩ := hphase
    have hdone : Through delivery (acts ++ [.settle]) := hdelivery.mpr hcalled
    refine ⟨hsame, hdone, ?_, hcalls⟩
    cases future with
    | pending => exact ⟨rfl, hdone, mt hwithdrawn.mp hfuture.2⟩
    | resolved s => exact absurd hfuture.2.1 hnot
    | cancelled => exact hwithdrawn.mpr hfuture
  | delivered =>
    have hsame' : Through delivery (acts ++ [.settle]) ↔ Through delivery acts :=
      ⟨fun _ => hphase, fun h => hdelivery.mpr (through_of_delivery h)⟩
    exact ⟨hsame, hsame'.mpr hphase, hfuture.congr hsame' hwithdrawn, hcalls⟩

theorem Performed.cancel (h : Performed result job acts t) : Performed result job (acts ++ [.cancel]) t.cancel := by
  obtain ⟨hsame, hphase, hfuture, hcalls⟩ := h
  have hfinish : Through [.finish] (acts ++ [.cancel]) ↔ Through [.finish] acts := by simp [through_finish]
  have hcall : Through [.finish, .call] (acts ++ [.cancel]) ↔ Through [.finish, .call] acts := by simp [through_call]
  have hdelivery : Through delivery (acts ++ [.cancel]) ↔ Through delivery acts := by simp [through_delivery]
  have hwithdrawn : Withdrawn (acts ++ [.cancel]) ↔ Withdrawn acts ∨ ¬Through delivery acts := by
    simp [withdrawn_concat]
  refine ⟨hsame, ?_, ?_, hcalls.congr hcall⟩
  · obtain ⟨j, phase, future, calls⟩ := t
    cases phase with
    | running => exact mt hfinish.mp hphase
    | posted r => exact ⟨hphase.1, hfinish.mpr hphase.2.1, mt hcall.mp hphase.2.2⟩
    | called r => exact ⟨hphase.1, hcall.mpr hphase.2.1, mt hdelivery.mp hphase.2.2⟩
    | delivered => exact hdelivery.mpr hphase
  · obtain ⟨j, phase, future, calls⟩ := t
    cases future with
    | pending => exact hwithdrawn.mpr (Or.inr hfuture.1)
    | resolved r =>
      obtain ⟨hr, hdone, hnot⟩ := hfuture
      exact ⟨hr, hdelivery.mpr hdone, fun h => (hwithdrawn.mp h).elim hnot fun hearly => hearly hdone⟩
    | cancelled => exact hwithdrawn.mpr (Or.inl hfuture)

theorem performed (runner : Runner) (job : Job) (acts : List Act) :
    Performed (job.result runner) job acts ((Ticket.ofJob job).perform runner acts) := by
  induction acts using List.reverseRecOn with
  | nil => exact performed_ofJob _ job
  | append_singleton acts act ih =>
    rw [Ticket.perform, List.foldl_append]
    cases act with
    | finish => exact ih.finish
    | call => exact ih.call
    | settle => exact ih.settle
    | cancel => exact ih.cancel

/-! ### Deliveries among others -/

/-- A future that is resolved or cancelled stays so. -/
theorem future_perform (runner : Runner) (acts : List Act) (h : t.future ≠ .pending) :
    (t.perform runner acts).future = t.future := by
  have hsettle {f : Future} (r : Report) (hf : f ≠ .pending) : f.settle r = f := by
    cases f with
    | pending => exact absurd rfl hf
    | resolved s | cancelled => rfl
  have hcancel {f : Future} (hf : f ≠ .pending) : f.cancel = f := by
    cases f with
    | pending => exact absurd rfl hf
    | resolved s | cancelled => rfl
  induction acts generalizing t with
  | nil => rfl
  | cons act rest ih =>
    have hact : (act.apply runner t).future = t.future := by
      obtain ⟨job, phase, future, calls⟩ := t
      cases act with
      | finish | call => cases phase <;> rfl
      | settle =>
        cases phase with
        | called r => exact hsettle r h
        | running | posted r | delivered => rfl
      | cancel => exact hcancel h
    exact (ih (hact ▸ h)).trans hact

/-- How the job of the ticket `i` is delivered, when `acts` are what the events have done to its ticket `t`. -/
structure Delivered (runner : Runner) (events : List Event) (i : Nat) (job : Job) (acts : List Act) (t : Ticket) :
    Prop where
  /-- The callback is called at most once, and with the result of the job. -/
  atMostOnce : t.calls = [] ∨ t.calls = [job.result runner]
  /-- It is called exactly once when the work is finished and nothing of the delivery is outstanding; the future is
      settled then. -/
  exactlyOnce : Through [.finish] acts → (∀ r, t.phase ≠ .posted r) → (∀ r, t.phase ≠ .called r) →
    (job.callback ≠ .none → t.calls = [job.result runner]) ∧ t.future ≠ .pending
  resolved : ∀ r, t.future = .resolved r ↔ r = job.result runner ∧ Through delivery acts ∧ ¬Withdrawn acts
  cancelled : t.future = .cancelled ↔ Withdrawn acts
  /-- No future is resolved before the callback has been called. -/
  callFirst : ∀ r, t.future = .resolved r → job.callback ≠ .none → t.calls = [r]
  final : t.future ≠ .pending →
    ∀ more, ((Desk.empty.run runner (events ++ more)).tickets[i]?).map Ticket.future = some t.future
  /-- When the steps of the delivery are taken, at whatever time, it comes to its end. -/
  ends : ∀ more, ∃ u, (Desk.empty.run runner (events ++ more ++ [.finish i, .call i, .settle i])).tickets[i]? = some u ∧
    (job.callback ≠ .none → u.calls = [job.result runner]) ∧ u.future ≠ .pending
  /-- The cancellations and the callbacks of other tickets change nothing. -/
  others : ∀ j callback, j ≠ i → (Desk.empty.run runner (excuse j callback 0 events)).tickets[i]? = some t
  alone : ∀ other, share i 0 other = some (job, acts) → (Desk.empty.run runner other).tickets[i]? = some t

theorem Performed.resolved_iff (h : Performed result job acts t) (r : Report) :
    t.future = .resolved r ↔ r = result ∧ Through delivery acts ∧ ¬Withdrawn acts := by
  obtain ⟨-, -, hfuture, -⟩ := h
  cases hf : t.future with
  | pending =>
    rw [hf] at hfuture
    exact ⟨(fun h => nomatch h), fun h => absurd h.2.1 hfuture.1⟩
  | resolved s =>
    rw [hf] at hfuture
    constructor
    · intro h
      obtain rfl := Future.resolved.inj h
      exact hfuture
    · rintro ⟨rfl, -⟩
      rw [hfuture.1]
  | cancelled =>
    rw [hf] at hfuture
    exact ⟨(fun h => nomatch h), fun h => absurd hfuture h.2.2⟩

theorem Performed.cancelled_iff (h : Performed result job acts t) : t.future = .cancelled ↔ Withdrawn acts := by
  obtain ⟨-, -, hfuture, -⟩ := h
  cases hf : t.future with
  | pending =>
    rw [hf] at hfuture
    exact ⟨(fun h => nomatch h), fun h => absurd h hfuture.2⟩
  | resolved s =>
    rw [hf] at hfuture
    exact ⟨(fun h => nomatch h), fun h => absurd h hfuture.2.2⟩
  | cancelled =>
    rw [hf] at hfuture
    exact ⟨fun _ => hfuture, fun _ => rfl⟩

/-- A delivery that has got to its end has called back and settled the future. -/
theorem Performed.done (h : Performed result job acts t) (hdone : Through delivery acts) :
    (job.callback ≠ .none → t.calls = [result]) ∧ t.future ≠ .pending := by
  refine ⟨fun hjob => h.calls.due hjob (through_of_delivery hdone), fun hpending => ?_⟩
  have hfuture := h.future
  rw [hpending] at hfuture
  exact hfuture.1 hdone

theorem Performed.delivered {events : List Event} (hshare : share i 0 events = some (job, acts))
    (hticket : (Desk.empty.run runner events).tickets[i]? = some ((Ticket.ofJob job).perform runner acts)) :
    Delivered runner events i job acts ((Ticket.ofJob job).perform runner acts) := by
  have h := performed runner job acts
  have hrun (other : List Event) (hother : share i 0 other = some (job, acts)) :
      (Desk.empty.run runner other).tickets[i]? = some ((Ticket.ofJob job).perform runner acts) := by
    rw [run_share (Nat.zero_le i), show Desk.empty.tickets.length = 0 from rfl, hother]
    rfl
  have happend (more : List Event) : (Desk.empty.run runner (events ++ more)).tickets[i]? =
      some (((Ticket.ofJob job).perform runner acts).perform runner (more.filterMap (Event.act? i))) := by
    rw [Desk.run, List.foldl_append]
    exact run_ticket hticket
  refine ⟨?_, fun hfinish hposted hcalled => ?_, h.resolved_iff, h.cancelled_iff, fun r hr hjob => ?_,
    fun hfuture more => ?_, fun more => ?_, fun j callback hj => hrun _ ((share_excuse hj 0).trans hshare), hrun⟩
  · by_cases hcall : Through [.finish, .call] acts
    · by_cases hjob : job.callback = .none
      · exact Or.inl (h.calls.without hjob)
      · exact Or.inr (h.calls.due hjob hcall)
    · exact Or.inl (h.calls.early hcall)
  · have hphase := h.phase
    cases hp : ((Ticket.ofJob job).perform runner acts).phase with
    | running =>
      rw [hp] at hphase
      exact absurd hfinish hphase
    | posted r => exact absurd hp (hposted r)
    | called r => exact absurd hp (hcalled r)
    | delivered =>
      rw [hp] at hphase
      exact h.done hphase
  · obtain ⟨rfl, hdone, -⟩ := (h.resolved_iff r).mp hr
    exact (h.done hdone).1 hjob
  · rw [happend]
    exact congrArg some (future_perform runner _ hfuture)
  · have hacts : [Event.finish i, .call i, .settle i].filterMap (Event.act? i) = delivery := by
      simp [Event.act?, delivery]
    have hlast := performed runner job (acts ++ (more.filterMap (Event.act? i) ++ delivery))
    refine ⟨_, ?_, hlast.done ((List.sublist_append_right _ _).trans (List.sublist_append_right _ _))⟩
    rw [List.append_assoc, happend, List.filterMap_append, hacts]
    exact congrArg some (List.foldl_append ..).symm

/-- Every submitted job is delivered exactly once, whatever the order of the events and whatever becomes of the
    other jobs. -/
theorem delivered_exactly_once (runner : Runner) (events : List Event) (i : Nat) (job : Job)
    (h : (submitted events)[i]? = some job) :
    ∃ acts t, share i 0 events = some (job, acts) ∧ (Desk.empty.run runner events).tickets[i]? = some t ∧
      Delivered runner events i job acts t := by
  obtain ⟨acts, hshare⟩ : ∃ acts, share i 0 events = some (job, acts) := by
    obtain ⟨⟨_, acts⟩, hshare, rfl⟩ :=
      Option.map_eq_some_iff.mp ((submitted_eq_share (Nat.zero_le i)).symm.trans h)
    exact ⟨acts, hshare⟩
  have hticket : (Desk.empty.run runner events).tickets[i]? = some ((Ticket.ofJob job).perform runner acts) := by
    rw [run_share (Nat.zero_le i), show Desk.empty.tickets.length = 0 from rfl, hshare]
    rfl
  exact ⟨acts, _, hshare, hticket, Performed.delivered hshare hticket⟩

/-- A job whose callback cancels the future and raises. -/
def restless : Job := ⟨"print(1)".toText, [], .raises "no".toText⟩

/-- A job in another delivery of which something else is delivered. -/
def patient : Job := ⟨"print(2)".toText, [], .returns⟩

/-- The steps of two deliveries, the one inside the other. -/
def entwined : List Event :=
  [.submit restless, .submit patient, .finish 1, .finish 0, .call 0, .cancel 0, .call 1, .settle 1, .settle 0]

/-- Cancelled from within its own callback, a future is not resolved, and another delivery is complete in the midst
    of that. -/
theorem delivered_exactly_once_entwined :
    (submitted entwined)[0]? = some restless ∧ (submitted entwined)[1]? = some patient ∧
      (∃ t, (Desk.empty.run ⟨[], Worker.serve⟩ entwined).tickets[0]? = some t ∧ t.future = .cancelled) ∧
      ∃ t, (Desk.empty.run ⟨[], Worker.serve⟩ entwined).tickets[1]? = some t ∧
        t.future = .resolved (patient.result ⟨[], Worker.serve⟩) := by
  obtain ⟨acts, t, hshare, ht, hdelivered⟩ := delivered_exactly_once ⟨[], Worker.serve⟩ entwined 0 restless rfl
  obtain ⟨acts', u, hshare', hu, hdelivered'⟩ := delivered_exactly_once ⟨[], Worker.serve⟩ entwined 1 patient rfl
  obtain rfl : [.finish, .call, .cancel, .settle] = acts := congrArg (·.elim [] Prod.snd) hshare
  obtain rfl : delivery = acts' := congrArg (·.elim [] Prod.snd) hshare'
  refine ⟨rfl, rfl, ⟨t, ht, hdelivered.cancelled.mpr ?_⟩, u, hu, (hdelivered'.resolved _).mpr ⟨rfl, ?_, ?_⟩⟩
  · exact ⟨[.finish, .call], [.settle], rfl, fun h => absurd h.length_le (by decide)⟩
  · exact List.Sublist.refl delivery
  · rintro ⟨before, after, heq, -⟩
    have hmem : Act.cancel ∈ delivery := heq ▸ List.mem_append_right before List.mem_cons_self
    exact absurd hmem (by decide)

end LineScript.Delivery
