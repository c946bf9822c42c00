import LineScript.Arithmetic.Evaluate
import LineScript.Proofs.Arithmetic.Lexing
import LineScript.Proofs.Arithmetic.Reading
import LineScript.Proofs.Program.Variables
import LineScript.Proofs.Text.Pieces
import LineScript.Proofs.Text.Surrogates

/-! Arithmetic over integers is exact. A formula evaluates to its value over the integers without bound, if it has
    one and that is one of 64 bits, however it is laid out; in between, no range is checked. What bounds a layout
    beyond its brackets is how far its deepest operand lies below its start. -/

namespace LineScript.Arithmetic

variable {store : Store} {ρ : Text → Int} {w : Layout}

/-! ### Preparing a text -/

theorem isBlank_gap (gap : List Space) : ∀ c ∈ gapText gap, Text.isBlank c = true :=
  over_gapText (by decide) (by decide) gap

theorem unifyBreaks_eq {t : Text} (h : .char '\r' ∉ t) : Text.unifyBreaks t = t := by
  induction t with
  | nil => rfl
  | cons c rest ih =>
    have hc := (List.ne_of_not_mem_cons h).symm
    rw [Text.unifyBreaks.eq_3 c rest fun _ hr _ => hc hr, ih (List.not_mem_of_not_mem_cons h), if_neg hc]

namespace Layout

/-- The text of a layout with blanks around it. -/
def surrounded (w : Layout) (before after : List Space) : Text := gapText before ++ w.text ++ gapText after

theorem trim_surrounded (hw : w.formula.Spelled) (before after : List Space) :
    Text.trim (w.surrounded before after) = w.text := by
  obtain ⟨c, tail, hhead, hc⟩ := head_text hw
  obtain ⟨init, d, hlast, hd⟩ := getLast_text hw
  refine Text.trim_append (isBlank_gap before) (isBlank_gap after) (hhead ▸ List.cons_ne_nil c tail) ?_ ?_
  · rintro e he
    rw [hhead] at he
    obtain rfl := Option.some.inj he
    rcases hc with hname | hmark
    · exact Text.isBlank_of_continuesName hname
    · have hall : ∀ e ∈ openings, Text.isBlank e = false := by decide
      exact hall c hmark
  · rintro e he
    rw [hlast, List.getLast?_concat] at he
    obtain rfl := Option.some.inj he
    rcases hd with hname | rfl
    · exact Text.isBlank_of_continuesName hname
    · decide

/-- Nothing in a layout has to be prepared, and nothing keeps it from being read. -/
theorem plain_text (hw : w.formula.Spelled) :
    Text.unencodable? w.text = none ∧ w.text.contains (.char '\x00') = false ∧ Text.unifyBreaks w.text = w.text := by
  have hwritten := over_text hw
  have hnot {c : CodePoint} (hname : Text.continuesName c = false) (hmark : c ∉ punctuation) : c ∉ w.text := by
    intro hc
    rcases hwritten c hc with h | h
    · rw [hname] at h
      cases h
    · exact hmark h
  refine ⟨Text.unencodable?_of_isScalar (Text.isScalar_iff.mpr ?_), ?_, unifyBreaks_eq (hnot (by decide +kernel) (by decide))⟩
  · intro c hc
    rcases hwritten c hc with hname | hmark
    · exact Text.isSurrogate_of_continuesName hname
    · have hall : ∀ d ∈ punctuation, d.isSurrogate = false := by decide
      exact hall c hmark
  · rw [Bool.eq_false_iff]
    intro hcontains
    exact hnot (by decide +kernel) (by decide) (List.contains_iff_mem.mp hcontains)

end Layout

/-! ### Evaluation -/

/-- The integer of an exact value, if that is one of 64 bits. -/
def bounded (t : Text) : Option Int → Except Cause Value
  | some n => if inRange n then .ok (.integer n) else .error (.badArithmetic t)
  | none => .error (.badArithmetic t)

theorem bounded_eq_ok {t : Text} {value : Option Int} {v : Value} :
    bounded t value = .ok v ↔ ∃ n, v = .integer n ∧ value = some n ∧ -(2 ^ 63) ≤ n ∧ n ≤ 2 ^ 63 - 1 := by
  constructor
  · intro h
    unfold bounded at h
    split at h
    · next n =>
      split at h
      · next hn =>
        cases h
        exact ⟨n, rfl, rfl, inRange_iff.mp hn⟩
      · cases h
    · cases h
  · rintro ⟨n, rfl, rfl, hn⟩
    exact if_pos (inRange_iff.mpr hn)

theorem bounded_eq_error {t : Text} {value : Option Int} {cause : Cause} (h : bounded t value = .error cause) :
    cause = .badArithmetic t := by
  unfold bounded at h
  split at h
  · split at h
    · cases h
    · exact (Except.error.inj h).symm
  · exact (Except.error.inj h).symm

/-- How a layout evaluates: exactly, unless an operand in it lies too deep. -/
theorem evaluate_layout (h : w.Sound store ρ) (before after : List Space) :
    evaluate store (w.surrounded before after) =
      if w.Fits firstLevel then bounded (w.surrounded before after) (w.formula.value ρ) else .error .outOfMemory := by
  obtain ⟨hencodes, hnull, hbreaks⟩ := Layout.plain_text h.spelled
  have hvalue : valueOf store w.text =
      if w.Fits firstLevel then answer (w.formula.value ρ) else .error .tooNested := by
    rw [valueOf, Layout.tokens_text h.spelled h.brackets, Layout.ofTokens_tokens h.grouped]
    by_cases hfits : w.Fits firstLevel
    · rw [if_pos hfits, if_pos hfits]
      exact value_tree h.bound h.levels
    · rw [if_neg hfits, if_neg hfits]
  rw [evaluate, prepared, Layout.trim_surrounded h.spelled, hencodes, hnull, hbreaks, hvalue]
  by_cases hfits : w.Fits firstLevel
  · rw [if_pos hfits, if_pos hfits]
    cases w.formula.value ρ with
    | none => rfl
    | some n =>
      have hinteger : (Number.integer n).toInteger? = if inRange n then some n else none := rfl
      rw [bounded, answer]
      dsimp only
      rw [hinteger]
      cases inRange n <;> rfl
  · rw [if_neg hfits, if_neg hfits]
    rfl

/-- Arithmetic over integers is exact. A layout whose operands lie at most 5975 levels below its start evaluates
    to the integer that is its exact value, if it has one and that is one of 64 bits; otherwise the line fails, and
    the message quotes the text with the blanks around it. -/
theorem evaluate_exact (h : w.Sound store ρ) (hdescent : w.descent ≤ 5975) (before after : List Space) :
    (∀ v, evaluate store (w.surrounded before after) = .ok v ↔
      ∃ n, v = .integer n ∧ w.formula.value ρ = some n ∧ -(2 ^ 63) ≤ n ∧ n ≤ 2 ^ 63 - 1) ∧
    ∀ cause, evaluate store (w.surrounded before after) = .error cause →
      cause.kind = .execution ∧
        cause.message = "Cannot evaluate arithmetic expression: ".toText ++ w.surrounded before after := by
  have hfits : w.Fits firstLevel := by
    simp only [Layout.Fits, firstLevel, operandDepth, maxLevel]
    omega
  rw [evaluate_layout h, if_pos hfits]
  refine ⟨fun v => bounded_eq_ok, fun cause hcause => ?_⟩
  obtain rfl := bounded_eq_error hcause
  exact ⟨rfl, rfl⟩

/-- The layout of `-(x + 1) / 2`, with a tab in it. -/
def halfLayout : Layout :=
  .joined .dividedBy (.signed true [] (.bracketed [] (.joined .plus (.name "x".toText) [.blank] [.blank] (.literal 1)) []))
    [.blank] [.tab] (.literal 2)

/-- Half of seven is cut toward zero, also where it is negative. -/
theorem evaluate_exact_half :
    (halfLayout.Sound ⟨[("x".toText, .integer 6)]⟩ (fun _ => 6) ∧ halfLayout.descent ≤ 5975) ∧
      evaluate ⟨[("x".toText, .integer 6)]⟩ " -(x + 1) /\t2".toText = .ok (.integer (-3)) := by
  have hsound : halfLayout.Sound ⟨[("x".toText, .integer 6)]⟩ (fun _ => 6) := by
    refine ⟨by decide, by decide, by decide, ⟨by decide, by decide +kernel⟩, ?_⟩
    intro x hx
    obtain rfl := List.mem_singleton.mp hx
    exact ⟨by decide, by decide⟩
  have hvalue : halfLayout.formula.value (fun _ => 6) = some (-3) := congrArg some (towardZero_div (by decide))
  have hdescent : halfLayout.descent ≤ 5975 := by decide
  exact ⟨⟨hsound, hdescent⟩,
    ((evaluate_exact hsound hdescent [.blank] []).1 _).mpr ⟨-3, rfl, hvalue, by decide, by decide⟩⟩

/-! ### Beyond the deepest level -/

/-- One inside so many brackets, with two minus signs before each. -/
def nest : Nat → Layout
  | 0 => .literal 1
  | n + 1 => .signed true [] (.signed true [] (.bracketed [] (nest n) []))

/-- Nothing but the depth grows with the brackets. -/
structure Nested (n : Nat) (w : Layout) : Prop where
  grouped : w.Grouped
  brackets : w.brackets = n
  levels : w.formula.levels = 2 * n
  descent : w.descent = 30 * n
  value : w.formula.value (fun _ => 0) = some 1
  literals : w.formula.literals = [1]
  names : w.formula.names = []

theorem nested_nest (n : Nat) : Nested n (nest n) := by
  induction n with
  | zero => exact ⟨by decide, rfl, rfl, rfl, rfl, rfl, rfl⟩
  | succ n ih =>
    refine ⟨⟨Nat.le_refl 2, Nat.le_refl 2, ih.grouped⟩, congrArg (· + 1) ih.brackets, ?_, ?_, ?_, ih.literals, ih.names⟩
    · exact congrArg (· + 2) ih.levels
    · rw [nest, Layout.descent, Layout.descent, Layout.descent, ih.descent, insideDepth]
      omega
    · rw [nest, Layout.formula, Layout.formula, Layout.formula, Formula.value, Formula.value, ih.value]
      rfl

/-- The brackets and the operators alone do not tell whether a layout can be read. -/
theorem nest_outOfMemory : (nest 200).Sound .empty (fun _ => 0) ∧ (nest 200).formula.value (fun _ => 0) = some 1 ∧
    evaluate .empty ((nest 200).surrounded [] []) = .error .outOfMemory := by
  have hnest := nested_nest 200
  have hsound : (nest 200).Sound .empty (fun _ => 0) := by
    refine ⟨hnest.grouped, Nat.le_of_eq hnest.brackets, Nat.le_of_eq hnest.levels, ⟨?_, ?_⟩, ?_⟩
    · rw [hnest.literals]
      decide
    · rw [hnest.names]
      decide
    · rw [Formula.Bound, hnest.names]
      exact fun _ hx => absurd hx List.not_mem_nil
  have hdeep : ¬(nest 200).Fits firstLevel := by
    rw [Layout.Fits, hnest.descent]
    decide
  rw [evaluate_layout hsound, if_neg hdeep]
  exact ⟨hsound, hnest.value, rfl⟩

end LineScript.Arithmetic
