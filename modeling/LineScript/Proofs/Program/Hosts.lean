import LineScript.Proofs.Program.Run

/-! The same program in two processes. What a line comes to is the same in both, unless its nesting is too deep for one
    of them or the memory of one gives out; so two runs go on in the same state until at some line one of the processes
    gives up. -/

namespace LineScript

/-- The results are the same, or one of them is the fault of too deep a nesting. -/
def Alike {ε α : Type} (deep : ε) (x y : Except ε α) : Prop := x = y ∨ x = .error deep ∨ y = .error deep

variable {ε α β : Type} {deep : ε} {x y : Except ε α} {f g : α → Except ε β}

theorem Alike.refl (deep : ε) (x : Except ε α) : Alike deep x x := .inl rfl

theorem Alike.bind (hx : Alike deep x y) (hf : ∀ a, Alike deep (f a) (g a)) :
    Alike deep (x >>= f) (y >>= g) := by
  rcases hx with rfl | rfl | rfl
  · cases x with
    | error e => exact .inl rfl
    | ok a => exact hf a
  · exact .inr (.inl rfl)
  · exact .inr (.inr rfl)

theorem Alike.bind_same (x : Except ε α) (hf : ∀ a, Alike deep (f a) (g a)) : Alike deep (x >>= f) (x >>= g) :=
  (Alike.refl deep x).bind hf

variable (here there : Host) (store : Store)

/-! ### Arithmetic -/

namespace Arithmetic

theorem evalTree_alike (e : Tree) (m n : Nat) : Alike .tooDeep (evalTree store m e) (evalTree store n e) := by
  induction e generalizing m n with
  | number | name | foreign =>
    left
    simp only [evalTree]
  | unary sign operand ih =>
    cases m with
    | zero => exact .inr (.inl rfl)
    | succ m =>
      cases n with
      | zero => exact .inr (.inr rfl)
      | succ n => exact (ih m n).bind fun a => .refl _ _
  | binary op left right ihl ihr =>
    cases m with
    | zero => exact .inr (.inl rfl)
    | succ m =>
      cases n with
      | zero => exact .inr (.inr rfl)
      | succ n => exact (ihl m n).bind fun a => (ihr m n).bind fun b => .refl _ _

theorem value_alike (e : Tree) : Alike .tooDeep (@Tree.value here store e) (@Tree.value there store e) := by
  unfold Tree.value
  split
  · exact .inr (.inl rfl)
  split
  · exact .inr (.inr rfl)
  · exact evalTree_alike store e _ _

/-- The fault of what is no plain arithmetic is the same, too. -/
theorem faultOf_alike (read : Except Halt Tree) :
    Alike (α := Number) .tooDeep (.error (@faultOf here store read)) (.error (@faultOf there store read)) := by
  cases read with
  | error halt => cases halt <;> exact .refl _ _
  | ok e =>
    unfold faultOf
    dsimp only
    rcases value_alike here there store e with h | h | h
    · rw [h]
      exact .refl _ _
    · rw [h]
      exact .inr (.inl rfl)
    · rw [h]
      exact .inr (.inr rfl)

theorem valueOf_alike (t : Text) : Alike .tooDeep (@valueOf here store t) (@valueOf there store t) := by
  unfold valueOf
  split
  · exact value_alike here there store _
  · exact .refl _ _
  · exact faultOf_alike here there store _

theorem evaluate_alike (t : Text) : Alike .tooDeep (@evaluate here store t) (@evaluate there store t) := by
  unfold evaluate
  cases Text.unencodable? (Text.trim t) with
  | some fault => exact .refl _ _
  | none =>
    dsimp only
    split
    · exact .refl _ _
    · rcases valueOf_alike here there store (prepared t) with h | h | h
      · rw [h]
        exact .refl _ _
      · rw [h]
        exact .inr (.inl rfl)
      · rw [h]
        exact .inr (.inr rfl)

end Arithmetic

/-! ### Expressions -/

theorem evaluateBare_alike (t : Text) : Alike .tooDeep (@evaluateBare here store t) (@evaluateBare there store t) := by
  refine Alike.bind_same (Literal.integer? t) fun n? => ?_
  cases n? with
  | some n => exact .refl _ _
  | none =>
    dsimp only
    cases Literal.float? t with
    | some x => exact .refl _ _
    | none =>
      dsimp only
      cases store.get? t with
      | some v => exact .refl _ _
      | none =>
        dsimp only
        split
        · exact Arithmetic.evaluate_alike here there store t
        · exact .refl _ _

theorem evaluate_alike (expression : Text) :
    Alike .tooDeep (@evaluate here store expression) (@evaluate there store expression) := by
  unfold evaluate
  dsimp only
  cases unquoted? (Text.trim expression) with
  | some inside => exact .refl _ _
  | none =>
    dsimp only
    split
    · exact .refl _ _
    split
    · exact .refl _ _
    · exact evaluateBare_alike here there store _

/-! ### Calls -/

namespace Builtin

theorem factorialOf_alike (n : Int) : Alike .tooDeep (@factorialOf here n) (@factorialOf there n) := by
  unfold factorialOf
  split
  · exact .inr (.inl rfl)
  split
  · exact .inr (.inr rfl)
  · exact .refl _ _

theorem writeFactorial_alike (n : Int) : Alike .tooDeep (@writeFactorial here n) (@writeFactorial there n) :=
  (factorialOf_alike here there n).bind fun _ => .refl _ _

theorem apply_alike (b : Builtin) (limit : Int) (argument : Text) :
    Alike .tooDeep (@apply here limit store argument b) (@apply there limit store argument b) := by
  cases b with
  | factorial =>
    refine (evaluate_alike here there store argument).bind fun v => ?_
    cases v with
    | integer n =>
      dsimp only
      split
      · exact .refl _ _
      · exact writeFactorial_alike here there n
    | _ => exact .refl _ _
  | greet => exact (evaluate_alike here there store argument).bind fun v => .refl _ _
  | add =>
    show Alike .tooDeep (@callAdd here store argument) (@callAdd there store argument)
    unfold callAdd
    split
    · next first second _ =>
      exact (evaluate_alike here there store first).bind fun a =>
        (evaluate_alike here there store second).bind fun b => .refl _ _
    · exact .refl _ _

theorem call_alike (limit : Int) (line : Text) :
    Alike .tooDeep (@call here limit store line) (@call there limit store line) := by
  unfold call
  cases called? line with
  | none => exact .refl _ _
  | some b => exact Alike.bind_same (b.arguments line) fun argument => apply_alike here there store b limit argument

end Builtin

/-! ### Lines -/

namespace Statement

theorem runPrint_alike (line : Text) : Alike .tooDeep (@runPrint here store line) (@runPrint there store line) := by
  unfold runPrint
  cases Text.between? printOpening ')' line with
  | none => exact .refl _ _
  | some content => exact (evaluate_alike here there store content).bind fun v => .refl _ _

theorem runDeclaration_alike (line : Text) :
    Alike .tooDeep (@runDeclaration here store line) (@runDeclaration there store line) := by
  unfold runDeclaration
  split
  · next left right _ =>
    split
    · exact .refl _ _
    split
    · exact .refl _ _
    · exact (evaluate_alike here there store _).bind fun v => .refl _ _
  · exact .refl _ _

theorem runAssignment_alike (line : Text) :
    Alike .tooDeep (@runAssignment here store line) (@runAssignment there store line) := by
  unfold runAssignment
  split
  · next left right _ =>
    dsimp only
    split
    · exact .refl _ _
    · exact (evaluate_alike here there store right).bind fun v => .refl _ _
  · exact .refl _ _

theorem run_alike (limit : Int) (line : Text) :
    Alike .tooDeep (@run here limit store line) (@run there limit store line) := by
  unfold run
  cases ofLine line with
  | print => exact runPrint_alike here there store line
  | declaration => exact runDeclaration_alike here there store line
  | assignment => exact runAssignment_alike here there store line
  | call => exact (Builtin.call_alike here there store limit line).bind fun t => .refl _ _
  | other => exact .refl _ _

end Statement

/-! ### The run -/

namespace Program

variable {limits : Limits} {s state : State} {line raw : Text} {number index : Nat} {ls : List Text} {cause : Cause}

/-- A process gives up at a line: its memory gives out there, or the nesting is too deep for it. -/
structure GivesUp (host : Host) (limits : Limits) (s : State) (line : Text) (cause : Cause) : Prop where
  fails : @State.step host limits s line = .error cause
  reason : cause = .outOfMemory ∧ host.givesOut s.steps s.store line = true ∨ cause = .tooDeep

/-- At the line with this index, which both processes reach in the same state, one of them gives up. -/
structure PartAt (here there : Host) (limits : Limits) (number : Nat) (s : State) (ls : List Text) (index : Nat)
    (raw : Text) (state : State) : Prop where
  found : ls[index]? = some raw
  here_before : @runLines here limits number s (ls.take index) = .ok state
  there_before : @runLines there limits number s (ls.take index) = .ok state
  dispatched : isSkipped (Text.trim raw) = false
  gives_up : (∃ cause, GivesUp here limits state (Text.trim raw) cause) ∨
    ∃ cause, GivesUp there limits state (Text.trim raw) cause

/-- A process gives up for want of memory wherever the lines before do not reach the step limit. -/
theorem GivesUp.of_givesOut {host : Host} (hsteps : (s.steps : Int) + 1 ≤ limits.maxSteps)
    (h : host.givesOut s.steps s.store line = true) : GivesUp host limits s line .outOfMemory := by
  refine ⟨?_, .inl ⟨rfl, h⟩⟩
  rw [State.step, if_neg (Int.not_lt.mpr hsteps), if_pos h]

/-- A process in which the statement of a line nests too deep gives up there, unless it does so for want of memory. -/
theorem GivesUp.of_tooDeep {host : Host} (hsteps : (s.steps : Int) + 1 ≤ limits.maxSteps)
    (h : @Statement.run host limits.maxFactorial s.store line = .error .tooDeep) :
    ∃ cause, GivesUp host limits s line cause := by
  cases hm : host.givesOut s.steps s.store line with
  | true => exact ⟨_, .of_givesOut hsteps hm⟩
  | false =>
    refine ⟨.tooDeep, ?_, .inr rfl⟩
    rw [State.step, if_neg (Int.not_lt.mpr hsteps), if_neg (by rw [hm]; exact Bool.false_ne_true), h]
    rfl

/-- A line comes to the same in two processes, or one of them gives up at it. -/
theorem State.step_hosts (here there : Host) (limits : Limits) (s : State) (line : Text) :
    @State.step here limits s line = @State.step there limits s line ∨
      (∃ cause, GivesUp here limits s line cause) ∨ ∃ cause, GivesUp there limits s line cause := by
  by_cases hs : limits.maxSteps < (s.steps : Int) + 1
  · left
    unfold State.step
    rw [if_pos hs, if_pos hs]
  have hsteps := Int.not_lt.mp hs
  cases hhere : here.givesOut s.steps s.store line with
  | true => exact .inr (.inl ⟨_, .of_givesOut hsteps hhere⟩)
  | false =>
    cases hthere : there.givesOut s.steps s.store line with
    | true => exact .inr (.inr ⟨_, .of_givesOut hsteps hthere⟩)
    | false =>
      rcases Statement.run_alike here there s.store limits.maxFactorial line with h | h | h
      · left
        unfold State.step
        rw [hhere, hthere, h]
      · exact .inr (.inl (GivesUp.of_tooDeep hsteps h))
      · exact .inr (.inr (GivesUp.of_tooDeep hsteps h))

theorem State.next_hosts (here there : Host) (limits : Limits) (number : Nat) (s : State) (raw : Text) :
    @State.next here limits number s raw = @State.next there limits number s raw ∨
      isSkipped (Text.trim raw) = false ∧ ((∃ cause, GivesUp here limits s (Text.trim raw) cause) ∨
        ∃ cause, GivesUp there limits s (Text.trim raw) cause) := by
  cases hsk : isSkipped (Text.trim raw) with
  | true =>
    left
    rw [@State.next_skipped _ _ _ _ here hsk, @State.next_skipped _ _ _ _ there hsk]
  | false =>
    rcases State.step_hosts here there limits s (Text.trim raw) with h | h
    · left
      rw [@State.next_dispatched _ _ _ _ here hsk, @State.next_dispatched _ _ _ _ there hsk, h]
    · exact .inr ⟨rfl, h⟩

/-- Two processes run the same lines alike, unless they part at one of them. -/
theorem runLines_hosts (here there : Host) (limits : Limits) (number : Nat) (s : State) (ls : List Text) :
    @runLines here limits number s ls = @runLines there limits number s ls ∨
      ∃ index raw state, PartAt here there limits number s ls index raw state := by
  induction ls generalizing number s with
  | nil => exact .inl rfl
  | cons raw ls ih =>
    rcases State.next_hosts here there limits number s raw with hnext | ⟨hsk, hup⟩
    · cases hthere : @State.next there limits number s raw with
      | error stop =>
        left
        rw [@runLines_cons_error _ _ _ _ _ _ here (hnext.trans hthere), @runLines_cons_error _ _ _ _ _ _ there hthere]
      | ok t =>
        have hhere := hnext.trans hthere
        rw [@runLines_cons_ok _ _ _ _ _ _ here hhere, @runLines_cons_ok _ _ _ _ _ _ there hthere]
        -- A parting among the lines after this one is one of all lines, a place further on.
        refine (ih (number + 1) t).imp id fun ⟨index, raw', state, hpart⟩ => ⟨index + 1, raw', state, ?_⟩
        refine ⟨hpart.found, ?_, ?_, hpart.dispatched, hpart.gives_up⟩
        · rw [List.take_succ_cons, @runLines_cons_ok _ _ _ _ _ _ here hhere, hpart.here_before]
        · rw [List.take_succ_cons, @runLines_cons_ok _ _ _ _ _ _ there hthere, hpart.there_before]
    · exact .inr ⟨0, raw, s, rfl, rfl, rfl, hsk, hup⟩

/-- A process that gives up at a line that it reaches stops there. -/
theorem GivesUp.stops {host : Host} (h : GivesUp host limits state (Text.trim raw) cause)
    (found : ls[index]? = some raw) (before : @runLines host limits number s (ls.take index) = .ok state)
    (dispatched : isSkipped (Text.trim raw) = false) :
    @runLines host limits number s ls = .error ⟨cause, number + index, Text.trim raw⟩ :=
  StopsAt.stops ⟨found, before, dispatched, h.fails, rfl, rfl⟩ rfl

theorem PartAt.stops {here there : Host} (h : PartAt here there limits number s ls index raw state) :
    ∃ stop : Stop, (stop.cause = .outOfMemory ∨ stop.cause = .tooDeep) ∧
      (@runLines here limits number s ls = .error stop ∨ @runLines there limits number s ls = .error stop) := by
  rcases h.gives_up with ⟨cause, hup⟩ | ⟨cause, hup⟩
  · exact ⟨_, hup.reason.imp And.left id, .inl (hup.stops h.found h.here_before h.dispatched)⟩
  · exact ⟨_, hup.reason.imp And.left id, .inr (hup.stops h.found h.there_before h.dispatched)⟩

end Program
end LineScript
