import LineScript.Proofs.Arithmetic.Exact
import LineScript.Proofs.Expression.Bare

/-! A variable on its own and as an operand. On its own a name is looked up as it stands, in arithmetic in its
    normal form, and only if the reader of arithmetic takes it for a name. Where that makes no difference, a
    variable that holds an integer reads the same in both. -/

namespace LineScript

variable {store : Store} {c : CodePoint} {tail x : Text} {v : Int}

/-! ### Texts that begin like a name -/

theorem not_mark_of_startsName (hc : Text.startsName c = true) :
    c ≠ .char '+' ∧ c ≠ .char '-' ∧ c ≠ .char '.' ∧ c.isDigit = false := by
  have hname : Arithmetic.namelike c = true := by
    refine Arithmetic.namelike_of_continuesName ?_
    rw [Text.continuesName, hc]
    rfl
  exact ⟨Arithmetic.ne_of_namelike hname rfl, Arithmetic.ne_of_namelike hname rfl,
    Arithmetic.ne_of_namelike hname rfl, Text.isDigit_of_startsName hc⟩

theorem splitSign_of_startsName (hc : Text.startsName c = true) :
    Decimal.splitSign (c :: tail) = (false, c :: tail) := by
  obtain ⟨hplus, hminus, -, -⟩ := not_mark_of_startsName hc
  rw [Decimal.splitSign]
  · exact fun rest hrest => hminus (List.cons.inj hrest).1
  · exact fun rest hrest => hplus (List.cons.inj hrest).1

theorem integer?_of_startsName (hc : Text.startsName c = true) : Literal.integer? (c :: tail) = .ok none := by
  obtain ⟨-, -, -, hdigit⟩ := not_mark_of_startsName hc
  simp [Literal.integer?, Literal.signedDigits?, splitSign_of_startsName hc, hdigit]

theorem float?_of_startsName (hc : Text.startsName c = true) : Literal.float? (c :: tail) = none := by
  obtain ⟨-, -, hpoint, hdigit⟩ := not_mark_of_startsName hc
  simp [Literal.float?, splitSign_of_startsName hc, hdigit, hpoint]

/-! ### On its own -/

theorem not_mem_of_isIdentifier {d : CodePoint} (hx : Text.isIdentifier x = true)
    (hd : Text.continuesName d = false) : d ∉ x := by
  intro hmem
  have hname := Arithmetic.continuesName_of_mem hx hmem
  rw [hd] at hname
  cases hname

/-- A name is looked up as it stands. -/
theorem evaluate_name {u : Value} (hx : Text.isIdentifier x = true) (htrue : x ≠ "true".toText)
    (hfalse : x ≠ "false".toText) (h : store.get? x = some u) : evaluate store x = .ok u := by
  have htrim : Text.trim x = x := Text.trim_eq_self fun d hd =>
    Text.isBlank_of_continuesName (Arithmetic.continuesName_of_mem hx hd)
  have hquote : .char '"' ∉ x := not_mem_of_isIdentifier hx (by decide +kernel)
  rw [evaluate_eq_bare htrim hquote htrue hfalse]
  obtain ⟨c, tail, rfl, hc, -⟩ := Arithmetic.isIdentifier_cases hx
  exact evaluateBare_of_get? (integer?_of_startsName hc) (float?_of_startsName hc) h

/-! ### As an operand -/

/-- The sum of a name and zero, with a space on either side of the sign. -/
def plusZero (x : Text) : Text := x ++ " + 0".toText

/-- A sum is a variable if there is one of that name, and arithmetic if there is none. -/
theorem evaluate_plusZero (hx : Text.isIdentifier x = true) : evaluate store (plusZero x) =
    match store.get? (plusZero x) with
    | some u => .ok u
    | none => Arithmetic.evaluate store (plusZero x) := by
  have hblank : ∀ d ∈ x, Text.isBlank d = false := fun d hd =>
    Text.isBlank_of_continuesName (Arithmetic.continuesName_of_mem hx hd)
  have hquote : .char '"' ∉ plusZero x := by
    rw [plusZero, List.mem_append, not_or]
    exact ⟨not_mem_of_isIdentifier hx (by decide +kernel), by decide⟩
  have hplus : .char '+' ∈ plusZero x := List.mem_append_right x (by decide)
  have hword {w : Text} (hw : .char '+' ∉ w) : plusZero x ≠ w := by
    rintro rfl
    exact hw hplus
  obtain ⟨c, tail, rfl, hc, -⟩ := Arithmetic.isIdentifier_cases hx
  have htrim : Text.trim (plusZero (c :: tail)) = plusZero (c :: tail) := by
    refine Text.trim_of_ends (by rintro d ⟨⟩; exact hblank c List.mem_cons_self) fun d hd => ?_
    rw [plusZero, List.getLast?_append_of_ne_nil _ (by decide)] at hd
    obtain rfl := Option.some.inj hd
    decide
  have hinteger : Literal.integer? (plusZero (c :: tail)) = .ok none := integer?_of_startsName hc
  have hfloat : Literal.float? (plusZero (c :: tail)) = none := float?_of_startsName hc
  have hoperator : hasOperator (plusZero (c :: tail)) = true := List.any_eq_true.mpr ⟨_, hplus, by decide⟩
  rw [evaluate_eq_bare htrim hquote (hword (by decide)) (hword (by decide))]
  cases hget : store.get? (plusZero (c :: tail)) with
  | some u => exact evaluateBare_of_get? hinteger hfloat hget
  | none => exact evaluateBare_of_operator hinteger hfloat hget hoperator

/-- A sum as it is laid out. -/
def plusZeroLayout (x : Text) : Arithmetic.Layout := .joined .plus (.name x) [.blank] [.blank] (.literal 0)

/-- A name in normal form that has no meaning of its own stands for the integer that it is bound to. -/
theorem arithmetic_plusZero (hx : Text.isIdentifier x = true) (hplain : x ∉ Arithmetic.reserved)
    (hnormal : Text.normalForm x = x) (h : store.get? x = some (.integer v)) (hv : inRange v = true) :
    Arithmetic.evaluate store (plusZero x) = .ok (.integer v) := by
  have hsound : (plusZeroLayout x).Sound store (fun _ => v) := by
    have hgrouped : (plusZeroLayout x).Grouped := ⟨Nat.zero_le 2, Nat.zero_lt_two, trivial, trivial⟩
    have hlevels : (plusZeroLayout x).formula.levels = 1 := rfl
    have hliterals : (plusZeroLayout x).formula.literals = [0] := rfl
    have hnames : (plusZeroLayout x).formula.names = [x] := rfl
    refine ⟨hgrouped, Nat.zero_le 200, by rw [hlevels]; decide, ⟨by rw [hliterals]; decide, ?_⟩, ?_⟩
    · simpa [hnames] using And.intro hx hplain
    · simpa [Arithmetic.Formula.Bound, hnames] using And.intro hnormal h
  have htext : (plusZeroLayout x).surrounded [] [] = plusZero x := List.append_nil _
  have hvalue : (plusZeroLayout x).formula.value (fun _ => v) = some v := congrArg some (Int.add_zero v)
  have hfits : (plusZeroLayout x).Fits Arithmetic.firstLevel := by
    show 20 + 0 + 5 ≤ 6000
    decide
  have heval := Arithmetic.evaluate_layout hsound [] []
  rwa [htext, if_pos hfits, hvalue, Arithmetic.bounded, if_pos hv] at heval

/-- A variable that holds an integer has it for its value on its own, and also as an operand: if its name is in
    normal form and no word with a meaning of its own, and the whole of the sum is not a name as well. -/
theorem variable_reads_alike (hx : Text.isIdentifier x = true) (htrue : x ≠ "true".toText)
    (hfalse : x ≠ "false".toText) (h : store.get? x = some (.integer v)) (hv : -(2 ^ 63) ≤ v ∧ v ≤ 2 ^ 63 - 1) :
    evaluate store x = .ok (.integer v) ∧
    (∀ u, store.get? (plusZero x) = some u → evaluate store (plusZero x) = .ok u) ∧
    (store.get? (plusZero x) = none → x ∉ Arithmetic.reserved → Text.normalForm x = x →
      evaluate store (plusZero x) = .ok (.integer v)) := by
  refine ⟨evaluate_name hx htrue hfalse h, fun u hu => ?_, fun hsum hplain hnormal => ?_⟩
  · rw [evaluate_plusZero hx, hu]
  · rw [evaluate_plusZero hx, hsum]
    exact arithmetic_plusZero hx hplain hnormal h (inRange_iff.mpr hv)

/-- A name with a letter beyond ASCII, which is in normal form, reads alike. -/
theorem variable_reads_alike_beyond_ascii :
    evaluate ⟨[("größe".toText, .integer 7)]⟩ "größe".toText = .ok (.integer 7) ∧
      evaluate ⟨[("größe".toText, .integer 7)]⟩ "größe + 0".toText = .ok (.integer 7) := by
  have hbound : Store.get? ⟨[("größe".toText, .integer 7)]⟩ "größe".toText = some (.integer 7) := by decide
  obtain ⟨halone, -, hsum⟩ := variable_reads_alike (by decide +kernel) (by decide) (by decide) hbound (by decide)
  exact ⟨halone, hsum (by decide) (by decide) (by decide +kernel)⟩

/-- The sum can be a name itself, the name can have a meaning of its own, and its normal form can be another name. -/
theorem variable_misread :
    evaluate ⟨[("x".toText, .integer 1), ("x + 0".toText, .integer 5)]⟩ "x + 0".toText = .ok (.integer 5) ∧
    (Text.isIdentifier "class".toText = true ∧
      evaluate ⟨[("class".toText, .integer 1)]⟩ "class + 0".toText = .error (.badArithmetic "class + 0".toText)) ∧
    Text.isIdentifier "ａ".toText = true ∧
      evaluate ⟨[("ａ".toText, .integer 1), ("a".toText, .integer 2)]⟩ "ａ + 0".toText = .ok (.integer 2) := by
  refine ⟨?_, ⟨?_, ?_⟩, ?_, ?_⟩ <;> decide +kernel

end LineScript
