import LineScript.Proofs.Program.Alphabet
import LineScript.Proofs.Program.Effects
import LineScript.Proofs.Text.Lines

/-! What the variables of a run can be. A name is bound as it stands in a line, trimmed, so it is not empty,
    has no blanks at its ends and holds neither `=` nor an opening of a print. An integer is in range,
    whether it comes from a literal, from arithmetic or from another variable, and no text reaches beyond
    one line. Every line keeps this. -/

namespace LineScript

/-- The text has no line boundary in it. -/
def Text.OneLine (t : Text) : Prop := Text.Over (Text.isLineBreak · = false) t

/-- A name as a line can bind it. -/
structure Bindable (name : Text) : Prop where
  nonempty : name ≠ []
  trimmed : Text.trim name = name
  noEquals : .char '=' ∉ name
  noPrint : ¬"print(".toText <:+: name
  oneLine : name.OneLine

/-- An integer is one of 64 bits, and a text stays within one line. -/
def Value.Sound : Value → Prop
  | .integer n => -(2 ^ 63) ≤ n ∧ n ≤ 2 ^ 63 - 1
  | .string t => t.OneLine
  | _ => True

/-- Every name of the store can be bound by a line, and every value is sound. -/
structure Store.Sound (s : Store) : Prop where
  names : ∀ b ∈ s.bindings, Bindable b.1
  values : ∀ b ∈ s.bindings, b.2.Sound

variable {store : Store} {line name expression : Text} {v : Value} {limit : Int}

theorem plain_oneLine : Plain (Text.isLineBreak · = false) := by
  intro c hlow hhigh
  have hc : (CodePoint.char c).toNat = c.toNat := rfl
  simp only [Text.isLineBreak, Text.inRanges, List.any_cons, List.any_nil, hc, Bool.or_eq_false_iff,
    Bool.and_eq_false_iff, decide_eq_false_iff_not, and_true]
  omega

theorem Store.sound_empty : Store.Sound .empty :=
  ⟨fun _ hb => absurd hb List.not_mem_nil, fun _ hb => absurd hb List.not_mem_nil⟩

theorem Store.Sound.set (hs : store.Sound) (hname : Bindable name) (hv : v.Sound) : (store.set name v).Sound := by
  constructor
  · intro b hb
    rcases Store.mem_setIn hb with rfl | hb
    · exact hname
    · exact hs.names b hb
  · intro b hb
    rcases Store.mem_setIn hb with rfl | hb
    · exact hv
    · exact hs.values b hb

/-- The texts of a sound store are over the code points that end no line. -/
theorem Store.Sound.over (hs : store.Sound) : store.Over (Text.isLineBreak · = false) := by
  rintro ⟨name, v⟩ hb
  cases v with
  | string t => exact hs.values _ hb
  | integer n | float x | boolean b => trivial

theorem Store.Sound.get (hs : store.Sound) (h : store.get? name = some v) : v.Sound := by
  obtain ⟨before, after, hb, -⟩ := List.lookup_eq_some_iff.mp h
  exact hs.values (name, v) (hb ▸ List.mem_append_right _ List.mem_cons_self)

/-! ### Where a value comes from -/

theorem inRange_iff {n : Int} : inRange n = true ↔ -(2 ^ 63) ≤ n ∧ n ≤ 2 ^ 63 - 1 := by
  rw [inRange, Bool.and_eq_true, decide_eq_true_eq, decide_eq_true_eq]
  exact Iff.rfl

theorem Literal.integer?_inRange {t : Text} {n : Int} (h : Literal.integer? t = .ok (some n)) : inRange n = true := by
  unfold Literal.integer? at h
  split at h
  · cases h
  split at h
  · cases h
  · have hsome := Except.ok.inj h
    split at hsome
    · next hn =>
      obtain rfl := Option.some.inj hsome
      exact hn
    · cases hsome

theorem Arithmetic.Number.toInteger?_inRange {number : Arithmetic.Number} {n : Int} (h : number.toInteger? = some n) :
    inRange n = true :=
  (Option.filter_eq_some_iff.mp h).2

theorem Arithmetic.evaluate_value {t : Text} (h : Arithmetic.evaluate store t = .ok v) :
    ∃ number n, Arithmetic.valueOf store (Arithmetic.prepared t) = .ok number ∧ number.toInteger? = some n ∧
      v = .integer n := by
  unfold Arithmetic.evaluate at h
  split at h
  · cases h
  split at h
  · cases h
  split at h
  · cases h
  · next number hnumber =>
    split at h
    · cases h
    · next n hn => exact ⟨number, n, hnumber, hn, (Except.ok.inj h).symm⟩

/-- A value is a quoted text with its markers replaced, a truth value, a number literal, the value of a
    variable or the result of arithmetic. -/
theorem evaluate_cases (h : evaluate store expression = .ok v) :
    (∃ inside, unquoted? (Text.trim expression) = some inside ∧ v = .string (interpolate store inside)) ∨
    (∃ b, v = .boolean b) ∨
    (∃ n, Literal.integer? (Text.trim expression) = .ok (some n) ∧ v = .integer n) ∨
    (∃ x, Literal.float? (Text.trim expression) = some x ∧ v = .float x) ∨
    store.get? (Text.trim expression) = some v ∨
    Arithmetic.evaluate store (Text.trim expression) = .ok v := by
  unfold evaluate at h
  dsimp only at h
  split at h
  · next inside hi => exact Or.inl ⟨inside, hi, (Except.ok.inj h).symm⟩
  split at h
  · exact Or.inr (Or.inl ⟨true, (Except.ok.inj h).symm⟩)
  split at h
  · exact Or.inr (Or.inl ⟨false, (Except.ok.inj h).symm⟩)
  refine Or.inr (Or.inr ?_)
  unfold evaluateBare at h
  cases hi : Literal.integer? (Text.trim expression) with
  | error cause => rw [hi] at h; cases h
  | ok n? =>
    rw [hi] at h
    cases n? with
    | some n => exact Or.inl ⟨n, rfl, (Except.ok.inj h).symm⟩
    | none =>
      refine Or.inr ?_
      simp only [bind, Except.bind] at h
      split at h
      · next x hx => exact Or.inl ⟨x, hx, (Except.ok.inj h).symm⟩
      split at h
      · next u hu => exact Or.inr (Or.inl (hu.trans (congrArg some (Except.ok.inj h))))
      split at h
      · exact Or.inr (Or.inr h)
      · cases h

theorem evaluate_sound (hs : store.Sound) (he : expression.OneLine) (h : evaluate store expression = .ok v) :
    v.Sound := by
  have hover : v.Over (Text.isLineBreak · = false) := by
    have hgives := evaluate_gives plain_oneLine hs.over he
    rwa [h] at hgives
  rcases evaluate_cases h with ⟨_, -, rfl⟩ | ⟨_, rfl⟩ | ⟨n, hn, rfl⟩ | ⟨_, -, rfl⟩ | hget | harith
  · exact hover
  · trivial
  · exact inRange_iff.mp (Literal.integer?_inRange hn)
  · trivial
  · exact hs.get hget
  · obtain ⟨number, n, -, hn, rfl⟩ := Arithmetic.evaluate_value harith
    exact inRange_iff.mp (number.toInteger?_inRange hn)

/-! ### Where a name comes from -/

/-- A line binds a bindable name to a sound value. -/
theorem Statement.run_sound (hs : store.Sound) (hl : line.OneLine) {effect : Effect}
    (h : Statement.run limit store line = .ok effect) : (effect.store store).Sound := by
  cases effect with
  | shows t => exact hs
  | binds name v =>
    obtain ⟨hprint, left, right, rfl, hleft, htarget, hne, hv⟩ := Statement.run_binds h
    obtain ⟨hoverLeft, hoverRight⟩ := Text.over_append.mp hl
    have hin := htarget.isInfix
    have hinLine : name <:+: left ++ .char '=' :: right := hin.trans (List.prefix_append _ _).isInfix
    refine hs.set ⟨hne, htarget.trimmed, fun h => hleft (hin.subset h), fun h => hprint (h.trans hinLine),
      hoverLeft.sublist hin.sublist⟩ ?_
    exact evaluate_sound hs (Text.over_cons.mp hoverRight).2 hv

namespace Program

variable {limits : Limits} {s t : State}

theorem runLines_sound {number : Nat} {ls : List Text} (hls : ∀ l ∈ ls, l.OneLine) (hs : s.store.Sound)
    (h : runLines limits number s ls = .ok t) : t.store.Sound := by
  refine runLines_keeps (P := fun u => u.store.Sound) (fun raw hraw u w hu hst => ?_) h hs
  obtain ⟨effect, hstep⟩ := State.stepped hst
  rw [hstep.store]
  exact Statement.run_sound hu ((hls raw hraw).sublist (Text.trim_sublist raw)) hstep.runs

theorem oneLine_of_mem_lines {code l : Text} (h : l ∈ Text.lines code) : l.OneLine := fun _ hc =>
  (Text.mem_of_mem_lines h hc).2

/-- Wherever the run of a program is, between two lines or after a line has taken effect, its store is
    sound. -/
theorem store_sound_throughout {code : Text} {k : Nat}
    (h : runLines limits 1 .initial ((Text.lines code).take k) = .ok s) :
    s.store.Sound ∧
    ∀ raw effect, (Text.lines code)[k]? = some raw →
      Statement.run limits.maxFactorial s.store (Text.trim raw) = .ok effect → (effect.store s.store).Sound := by
  have hs : s.store.Sound :=
    runLines_sound (fun l hl => oneLine_of_mem_lines (List.mem_of_mem_take hl)) Store.sound_empty h
  refine ⟨hs, fun raw effect hraw hrun => ?_⟩
  exact Statement.run_sound hs ((oneLine_of_mem_lines (List.mem_of_getElem? hraw)).sublist (Text.trim_sublist raw)) hrun

/-- A name with a blank inside is bound, and then the text of its value to another name. -/
theorem store_sound_after_marker :
    ∃ s effect,
      runLines .default 1 .initial
        ((Text.lines "let a b = -7\n\tc = \"\\(a b)!\"".toText).take 1) = .ok s ∧
      Statement.run 20 s.store "c = \"\\(a b)!\"".toText = .ok effect ∧
      (effect.store s.store).bindings =
        [("a b".toText, .integer (-7)), ("c".toText, .string "-7!".toText)] ∧
      s.store.Sound ∧ (effect.store s.store).Sound := by
  have hrun : runLines .default 1 .initial ((Text.lines "let a b = -7\n\tc = \"\\(a b)!\"".toText).take 1) =
      .ok ⟨⟨[("a b".toText, .integer (-7))]⟩, 1, 0, []⟩ := rfl
  have hline : Statement.run 20 ⟨[("a b".toText, .integer (-7))]⟩ "c = \"\\(a b)!\"".toText =
      .ok (.binds "c".toText (.string "-7!".toText)) := rfl
  obtain ⟨hbefore, hafter⟩ := store_sound_throughout hrun
  exact ⟨_, _, hrun, hline, rfl, hbefore, hafter "\tc = \"\\(a b)!\"".toText _ rfl hline⟩

end Program

end LineScript
