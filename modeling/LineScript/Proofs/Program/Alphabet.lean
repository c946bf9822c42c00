import LineScript.Proofs.Program.Run
import LineScript.Proofs.Text.Alphabet
import LineScript.Proofs.Text.Pieces

/-! The alphabet of a run. Whatever set of code points the lines of a program are over, if it holds the
    printable characters of ASCII then every text that the run binds, shows or complains with is over it. -/

namespace LineScript
open Text (Over)

variable {P : CodePoint → Prop} {store : Store}

/-! ### Values, causes and results -/

/-- A text is over the set; other values are over every set. -/
def Value.Over (P : CodePoint → Prop) : Value → Prop
  | .string t => Text.Over P t
  | _ => True

/-- The texts of all values are over the alphabet. -/
def Store.Over (P : CodePoint → Prop) (s : Store) : Prop := ∀ b ∈ s.bindings, b.2.Over P

/-- What a line shows or binds is over the alphabet. -/
def Effect.Over (P : CodePoint → Prop) : Effect → Prop
  | .shows t => Text.Over P t
  | .binds _ v => v.Over P

/-- The text of the program that the message of a cause quotes. -/
def Cause.quoted : Cause → Text
  | .invalidCall name => name
  | .unknownExpression text => text
  | .badArithmetic text => text
  | _ => []

/-- A result with the property, or a cause that quotes nothing beyond the set. -/
def Gives (P : CodePoint → Prop) {α : Type} (Q : α → Prop) : Except Cause α → Prop
  | .ok a => Q a
  | .error cause => Text.Over P cause.quoted

theorem Gives.bind {α β : Type} {Q : α → Prop} {R : β → Prop} {x : Except Cause α} {f : α → Except Cause β}
    (hx : Gives P Q x) (hf : ∀ a, Q a → Gives P R (f a)) : Gives P R (x >>= f) := by
  cases x with
  | error cause => exact hx
  | ok a => exact hf a hx

theorem over_display (hP : Plain P) {v : Value} (hv : v.Over P) : Over P v.display := by
  cases v with
  | integer n => exact Text.over_ofInt hP n
  | float x => exact Decimal.over_write hP x
  | boolean b =>
    cases b with
    | false | true => exact Text.over_toText hP (by decide)
  | string t => exact hv

theorem over_encodeMessage (hP : Plain P) (fault : Text.EncodeFault) : Over P fault.message := by
  have few : Over P ("character '".toText ++ Text.escapeCode fault.first ++ "' in position ".toText ++
      Text.ofNat fault.position) :=
    (((Text.over_toText hP (by decide)).append (Text.over_escapeCode hP _)).append
      (Text.over_toText hP (by decide))).append (Text.over_ofNat hP _)
  have many : Over P ("characters in position ".toText ++ Text.ofNat fault.position ++ "-".toText ++
      Text.ofNat (fault.position + fault.length - 1)) :=
    (((Text.over_toText hP (by decide)).append (Text.over_ofNat hP _)).append
      (Text.over_toText hP (by decide))).append (Text.over_ofNat hP _)
  unfold Text.EncodeFault.message
  refine ((Text.over_toText hP (by decide)).append ?_).append (Text.over_toText hP (by decide))
  split
  · exact few
  · exact many

theorem over_naming {wording : Int → Cause} (h : ∀ limit, Text.Over P (wording limit).quoted) (limit : Int) :
    Text.Over P (Cause.naming wording limit).quoted := by
  unfold Cause.naming
  split
  · exact h limit
  · exact Text.over_nil

/-- Beside what it quotes, a message is made of words and numbers. -/
theorem over_message (hP : Plain P) {cause : Cause} (h : Over P cause.quoted) : Over P cause.message := by
  cases cause with
  | invalidCall name => exact ((Text.over_toText hP (by decide)).append h).append (Text.over_toText hP (by decide))
  | unknownExpression text => exact (Text.over_toText hP (by decide)).append h
  | badArithmetic text => exact (Text.over_toText hP (by decide)).append h
  | factorialTooLarge limit | stepLimit limit | outputLimit limit =>
    exact ((Text.over_toText hP (by decide)).append (Text.over_ofInt hP limit)).append (Text.over_toText hP (by decide))
  | longInteger digits =>
    exact ((Text.over_toText hP (by decide)).append (Text.over_ofNat hP digits)).append
      (Text.over_toText hP (by decide))
  | unwritable => exact (Text.over_toText hP (by decide)).append (Text.over_toText hP (by decide))
  | unencodable fault => exact over_encodeMessage hP fault
  | _ => exact Text.over_toText hP (by decide)

/-! ### The store and the state -/

theorem Store.over_empty : Store.Over P .empty := fun _ hb => absurd hb List.not_mem_nil

theorem Store.Over.get (hs : store.Over P) {name : Text} {v : Value} (h : store.get? name = some v) : v.Over P := by
  obtain ⟨before, after, hb, -⟩ := List.lookup_eq_some_iff.mp h
  exact hs (name, v) (hb ▸ List.mem_append_right _ List.mem_cons_self)

theorem Store.mem_setIn {name : Text} {v : Value} {bindings : List (Text × Value)} {b : Text × Value}
    (hb : b ∈ Store.setIn name v bindings) : b = (name, v) ∨ b ∈ bindings := by
  induction bindings with
  | nil => exact Or.inl (List.mem_singleton.mp hb)
  | cons first rest ih =>
    unfold Store.setIn at hb
    split at hb
    · rcases List.mem_cons.mp hb with rfl | hb
      · exact Or.inl rfl
      · exact Or.inr (List.mem_cons_of_mem _ hb)
    · rcases List.mem_cons.mp hb with rfl | hb
      · exact Or.inr List.mem_cons_self
      · exact (ih hb).imp id (List.mem_cons_of_mem _)

theorem Store.Over.set (hs : store.Over P) (name : Text) {v : Value} (hv : v.Over P) : (store.set name v).Over P := by
  intro b hb
  rcases Store.mem_setIn hb with rfl | hb
  · exact hv
  · exact hs b hb

/-- All that a run has bound and shown so far is over the set. -/
structure Program.State.Over (P : CodePoint → Prop) (s : Program.State) : Prop where
  store : s.store.Over P
  shown : ∀ t ∈ s.shown, Text.Over P t

theorem Program.State.over_initial : State.initial.Over P := ⟨Store.over_empty, fun _ ht => absurd ht List.not_mem_nil⟩

/-! ### Parts of lines -/

theorem over_fill (hP : Plain P) (hs : store.Over P) (m : Marker) {t : Text} (ht : Over P t) :
    Over P (Marker.fill store m t) := by
  unfold Marker.fill
  split
  · exact ht
  · next v hv =>
    exact ((ht.sublist (List.take_sublist _ _)).append (over_display hP (hs.get hv))).append
      (ht.sublist (List.drop_sublist _ _))

theorem over_interpolate (hP : Plain P) (hs : store.Over P) {t : Text} (ht : Over P t) :
    Over P (interpolate store t) := by
  unfold interpolate
  induction Marker.all t with
  | nil => exact ht
  | cons m ms ih => exact over_fill hP hs m ih

theorem unquoted?_sublist {t inside : Text} (h : unquoted? t = some inside) : inside.Sublist t := by
  unfold unquoted? at h
  split at h
  · cases h
    exact (List.dropLast_sublist _).trans (List.drop_sublist _ _)
  · cases h

theorem Literal.integer?_gives (t : Text) : Gives P (fun _ => True) (Literal.integer? t) := by
  unfold Literal.integer?
  split
  · trivial
  · split
    · exact Text.over_nil
    · trivial

theorem Builtin.arguments_gives (hP : Plain P) (b : Builtin) {line : Text} (hl : Over P line) :
    Gives P (Over P) (b.arguments line) := by
  have hname : Over P b.name := by
    cases b with
    | factorial | greet | add => exact Text.over_toText hP (by decide)
  unfold Builtin.arguments
  split
  · exact hname
  split
  · exact hname
  · next t ht => exact hl.sublist (Text.between?_sublist ht)

theorem over_right {line left right : Text} {mark : CodePoint} (hl : Over P line)
    (hsplit : line.splitOn mark = [left, right]) : Over P right := by
  have hmem : right ∈ line.splitOn mark := by
    rw [hsplit]
    exact List.mem_cons_of_mem _ List.mem_cons_self
  exact hl.sublist (Text.splitOn_sublist hmem)

/-! ### Expressions and lines -/

variable [Host]

theorem Arithmetic.evaluate_gives {t : Text} (ht : Over P t) :
    Gives P (Value.Over P) (Arithmetic.evaluate store t) := by
  unfold Arithmetic.evaluate
  split
  · exact Text.over_nil
  split
  · exact Text.over_nil
  split
  · next fault _ => cases fault <;> first | exact ht | exact Text.over_nil
  · split
    · exact ht
    · trivial

theorem evaluateBare_gives (hs : store.Over P) {t : Text} (ht : Over P t) :
    Gives P (Value.Over P) (evaluateBare store t) := by
  refine (Literal.integer?_gives t).bind fun n _ => ?_
  split
  · trivial
  split
  · trivial
  split
  · next v hv => exact hs.get hv
  split
  · exact Arithmetic.evaluate_gives ht
  · exact ht

theorem evaluate_gives (hP : Plain P) (hs : store.Over P) {expression : Text} (he : Over P expression) :
    Gives P (Value.Over P) (evaluate store expression) := by
  have ht : Over P (Text.trim expression) := he.sublist (Text.trim_sublist _)
  unfold evaluate
  dsimp only
  split
  · next inside hi => exact over_interpolate hP hs (ht.sublist (unquoted?_sublist hi))
  split
  · trivial
  split
  · trivial
  · exact evaluateBare_gives hs ht

theorem Builtin.writeFactorial_gives (hP : Plain P) (n : Int) : Gives P (Over P) (Builtin.writeFactorial n) := by
  unfold Builtin.writeFactorial Builtin.factorialOf
  split
  · exact Text.over_nil
  · show Gives P (Over P) (if Decimal.isWritable _ then Except.ok _ else _)
    split
    · exact Text.over_ofNat hP _
    · exact Text.over_nil

theorem Builtin.callFactorial_gives (hP : Plain P) (hs : store.Over P) (limit : Int) {argument : Text}
    (ha : Over P argument) : Gives P (Over P) (Builtin.callFactorial limit store argument) := by
  refine (evaluate_gives hP hs ha).bind fun v _ => ?_
  split
  · split
    · exact over_naming (fun _ => Text.over_nil) limit
    · exact writeFactorial_gives hP _
  · exact Text.over_nil

theorem Builtin.callGreet_gives (hP : Plain P) (hs : store.Over P) {argument : Text} (ha : Over P argument) :
    Gives P (Over P) (Builtin.callGreet store argument) := by
  refine (evaluate_gives hP hs ha).bind fun v hv => ?_
  split
  · exact ((Text.over_toText hP (by decide)).append hv).append (Text.over_toText hP (by decide))
  · exact Text.over_nil

theorem Builtin.callAdd_gives (hP : Plain P) (hs : store.Over P) {argument : Text} (ha : Over P argument) :
    Gives P (Over P) (Builtin.callAdd store argument) := by
  unfold Builtin.callAdd
  split
  · next first second hsplit =>
    have hpiece : ∀ t ∈ (argument.splitOn (.char ',')).map Text.trim, Over P t := by
      intro t ht
      obtain ⟨piece, hpiece, rfl⟩ := List.mem_map.mp ht
      exact (ha.sublist (Text.splitOn_sublist hpiece)).sublist (Text.trim_sublist _)
    rw [hsplit] at hpiece
    refine (evaluate_gives hP hs (hpiece first List.mem_cons_self)).bind fun a _ => ?_
    refine (evaluate_gives hP hs (hpiece second (List.mem_cons_of_mem _ List.mem_cons_self))).bind fun b _ => ?_
    split
    · split
      · exact Text.over_ofInt hP _
      · exact Text.over_nil
    · exact Text.over_nil
  · exact Text.over_nil

theorem Builtin.call_gives (hP : Plain P) (hs : store.Over P) (limit : Int) {line : Text} (hl : Over P line) :
    Gives P (Over P) (Builtin.call limit store line) := by
  unfold Builtin.call
  split
  · exact Text.over_nil
  · next b _ =>
    refine (b.arguments_gives hP hl).bind fun argument ha => ?_
    cases b with
    | factorial => exact Builtin.callFactorial_gives hP hs limit ha
    | greet => exact Builtin.callGreet_gives hP hs ha
    | add => exact Builtin.callAdd_gives hP hs ha

theorem Statement.run_gives (hP : Plain P) (hs : store.Over P) (limit : Int) {line : Text} (hl : Over P line) :
    Gives P (Effect.Over P) (Statement.run limit store line) := by
  unfold Statement.run
  split
  · unfold Statement.runPrint
    split
    · exact Text.over_nil
    · next content hc =>
      exact (evaluate_gives hP hs (hl.sublist (Text.between?_sublist hc))).bind fun v hv => over_display hP hv
  · unfold Statement.runDeclaration
    split
    · next left right hsplit =>
      have hright := over_right hl hsplit
      split
      · exact Text.over_nil
      split
      · exact Text.over_nil
      · exact (evaluate_gives hP hs (hright.sublist (Text.trim_sublist _))).bind fun v hv => hv
    · exact Text.over_nil
  · unfold Statement.runAssignment
    split
    · next left right hsplit =>
      have hright := over_right hl hsplit
      dsimp only
      split
      · exact Text.over_nil
      · exact (evaluate_gives hP hs hright).bind fun v hv => hv
    · exact Text.over_nil
  · exact (Builtin.call_gives hP hs limit hl).bind fun t ht => ht
  · exact Text.over_nil

/-! ### Runs -/

namespace Program

variable {limits : Limits} {s t : State} {line : Text}

theorem State.Over.step (hP : Plain P) (hs : s.Over P) (hl : Text.Over P line) (h : s.step limits line = .ok t) :
    t.Over P := by
  obtain ⟨effect, hstep⟩ := State.stepped h
  have heffect := Statement.run_gives hP hs.store limits.maxFactorial hl
  rw [hstep.runs] at heffect
  constructor
  · rw [hstep.store]
    cases effect with
    | shows text => exact hs.store
    | binds name v => exact hs.store.set name heffect
  · rcases hstep.shown with ⟨-, -, hshown⟩ | ⟨-, -, -, hshown⟩
    · rw [hshown]
      exact hs.shown
    · rw [hshown]
      refine List.forall_mem_cons.mpr ⟨?_, hs.shown⟩
      cases effect with
      | shows text => exact heffect
      | binds name v => exact Text.over_nil

theorem State.Over.step_error (hP : Plain P) (hs : s.Over P) (hl : Text.Over P line) {cause : Cause}
    (h : s.step limits line = .error cause) : Text.Over P cause.quoted := by
  rcases s.step_cases limits line with ⟨_, _, hok, -⟩ | ⟨-, he⟩ | ⟨-, -, he⟩ | ⟨-, -, cause', hrun, he⟩ |
      ⟨-, -, _, -, -, -, he⟩
  · rw [h] at hok
    cases hok
  all_goals obtain rfl := Except.error.inj (h.symm.trans he)
  · exact over_naming (fun _ => Text.over_nil) _
  · exact Text.over_nil
  · have hgives := Statement.run_gives hP hs.store limits.maxFactorial hl
    rwa [hrun] at hgives
  · exact over_naming (fun _ => Text.over_nil) _

theorem runLines_over (hP : Plain P) {number : Nat} {ls : List Text} (hls : ∀ l ∈ ls, Text.Over P l) (hs : s.Over P)
    (h : runLines limits number s ls = .ok t) : t.Over P :=
  runLines_keeps (fun _ hraw _ _ hu hst => hu.step hP ((hls _ hraw).sublist (Text.trim_sublist _)) hst) h hs

/-- What a program over the set shows is over the set. -/
theorem execute_over (hP : Plain P) {code : Text} (hcode : ∀ l ∈ Text.lines code, Text.Over P l) {shown : List Text}
    (h : execute limits code = .ok shown) : ∀ t ∈ shown, Text.Over P t := by
  obtain ⟨t, hrun, rfl⟩ := execute_ok_iff.mp h
  intro text htext
  exact (runLines_over hP hcode State.over_initial hrun).shown text (List.mem_reverse.mp htext)

/-- Where a program over the set stops, the text of the line and the complaint are over the set. -/
theorem execute_error_over (hP : Plain P) {code : Text} (hcode : ∀ l ∈ Text.lines code, Text.Over P l) {stop : Stop}
    (h : execute limits code = .error stop) : Text.Over P stop.text ∧ Text.Over P stop.cause.message := by
  obtain ⟨index, raw, state, hat⟩ := runLines_error (execute_error_iff.mp h)
  have hraw : Text.Over P (Text.trim raw) :=
    (hcode raw (List.mem_of_getElem? hat.found)).sublist (Text.trim_sublist raw)
  have hstate : state.Over P :=
    runLines_over hP (fun l hl => hcode l (List.mem_of_mem_take hl)) State.over_initial hat.before
  exact ⟨hat.text ▸ hraw, over_message hP (hstate.step_error hP hraw hat.fails)⟩

end Program

end LineScript
