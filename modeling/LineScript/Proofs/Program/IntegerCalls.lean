import LineScript.Builtin
import LineScript.Proofs.Except
import LineScript.Proofs.Expression.Literals
import Mathlib.Data.Nat.Factorial.Basic

/-! Integers that are computed. A factorial is that of mathematics, and a sum is the sum, or they are faults: nothing
    is cut off. A factorial has 64 bits up to that of twenty and not beyond. So with that limit, or a lower one, all
    that these functions show is read back as the integer that it stands for. -/

namespace LineScript.Builtin

variable {b : Builtin} {limit n m : Int} {store : Store} {line argument first second text : Text}

/-- The line calls the function with the arguments. -/
structure Routes (b : Builtin) (line argument : Text) : Prop where
  called : called? line = some b
  arguments : b.arguments line = .ok argument

/-- The parameters of a call: what stands between commas, without blanks around it. -/
def parameters (argument : Text) : List Text := (argument.splitOn (.char ',')).map Text.trim

/-- The integer that the function makes of its arguments. -/
inductive Makes (store : Store) : Builtin → Text → Int → Prop where
  | factorial {argument : Text} {n : Int} (h : evaluate store argument = .ok (.integer n)) :
    Makes store .factorial argument n.toNat.factorial
  | sum {argument first second : Text} {m n : Int} (hparameters : parameters argument = [first, second])
    (hfirst : evaluate store first = .ok (.integer m)) (hsecond : evaluate store second = .ok (.integer n)) :
    Makes store .add argument (m + n)

theorem Routes.call (h : Routes b line argument) : call limit store line = b.apply limit store argument := by
  rw [Builtin.call, h.called]
  dsimp only
  rw [h.arguments]
  rfl

/-! ### Factorials -/

theorem product_eq_factorial (n : Nat) : product n = n.factorial := by
  induction n with
  | zero => rfl
  | succ n ih => rw [product, ih, Nat.factorial_succ]

/-- Twenty has the last factorial of 64 bits. -/
theorem factorial_fits_iff (n : Nat) :
    -(2 ^ 63) ≤ (n.factorial : Int) ∧ (n.factorial : Int) ≤ 2 ^ 63 - 1 ↔ n ≤ 20 := by
  constructor
  · rintro ⟨-, h⟩
    by_contra hn
    have hle : Nat.factorial 21 ≤ n.factorial := Nat.factorial_le (by omega)
    have hlarge : 2 ^ 63 ≤ Nat.factorial 21 := by decide +kernel
    omega
  · intro hn
    have hle : n.factorial ≤ Nat.factorial 20 := Nat.factorial_le hn
    have hsmall : Nat.factorial 20 < 2 ^ 63 := by decide +kernel
    omega

/-- A factorial that is computed has few enough digits to be written. -/
theorem writeFactorial_of_le (hdepth : n ≤ 980) : writeFactorial n = .ok (Text.ofNat n.toNat.factorial) := by
  have hreached : ¬maxFactorialDepth < n := Int.not_lt.mpr hdepth
  have hwritable : Decimal.isWritable n.toNat.factorial = true := by
    have hle : n.toNat.factorial ≤ Nat.factorial 980 := Nat.factorial_le (by omega)
    have hsmall : Nat.factorial 980 < 10 ^ Decimal.maxDigits := by decide +kernel
    rw [Decimal.isWritable_iff, Int.natAbs_natCast]
    exact Nat.lt_of_le_of_lt hle hsmall
  rw [writeFactorial, factorialOf, if_neg hreached, product_eq_factorial]
  exact if_pos hwritable

theorem writeFactorial_ok (h : writeFactorial n = .ok text) : text = Text.ofNat n.toNat.factorial := by
  obtain ⟨k, hk, h⟩ := bind_ok_iff.mp h
  unfold factorialOf at hk
  split at hk
  · cases hk
  obtain rfl := Except.ok.inj hk
  split at h
  · exact product_eq_factorial _ ▸ (Except.ok.inj h).symm
  · cases h

theorem callFactorial_of_value (h : evaluate store argument = .ok (.integer n)) (hdepth : n ≤ 980) :
    callFactorial limit store argument =
      if limit < n then .error (.naming .factorialTooLarge limit) else .ok (Text.ofNat n.toNat.factorial) := by
  rw [callFactorial, h, ← writeFactorial_of_le hdepth]
  rfl

/-- Beyond the limit the factorial is not begun, however deep it would lead. -/
theorem callFactorial_of_lt (h : evaluate store argument = .ok (.integer n)) (hn : limit < n) :
    callFactorial limit store argument = .error (.naming .factorialTooLarge limit) := by
  rw [callFactorial, h]
  simp only [bind, Except.bind, if_pos hn]

theorem callFactorial_ok (h : callFactorial limit store argument = .ok text) :
    ∃ n, evaluate store argument = .ok (.integer n) ∧ n ≤ limit ∧ text = Text.ofNat n.toNat.factorial := by
  obtain ⟨v, hv, h⟩ := bind_ok_iff.mp h
  cases v with
  | integer n =>
    dsimp only at h
    split at h
    · cases h
    · next hn => exact ⟨n, hv, Int.not_lt.mp hn, writeFactorial_ok h⟩
  | _ => cases h

/-! ### Sums -/

theorem callAdd_of_values (hparameters : parameters argument = [first, second])
    (hfirst : evaluate store first = .ok (.integer m)) (hsecond : evaluate store second = .ok (.integer n)) :
    callAdd store argument = if inRange (m + n) then .ok (Text.ofInt (m + n)) else .error .addOverflow := by
  rw [parameters] at hparameters
  rw [callAdd, hparameters]
  simp only [bind, Except.bind, pure, Except.pure, hfirst, hsecond]

theorem callAdd_ok (h : callAdd store argument = .ok text) :
    ∃ first second m n, parameters argument = [first, second] ∧ evaluate store first = .ok (.integer m) ∧
      evaluate store second = .ok (.integer n) ∧ inRange (m + n) = true ∧ text = Text.ofInt (m + n) := by
  unfold callAdd at h
  split at h
  · next first second hparameters =>
    obtain ⟨v, hfirst, h⟩ := bind_ok_iff.mp h
    obtain ⟨w, hsecond, h⟩ := bind_ok_iff.mp h
    cases v with
    | integer m =>
      cases w with
      | integer n =>
        dsimp only at h
        split at h
        · next hrange => exact ⟨first, second, m, n, hparameters, hfirst, hsecond, hrange, (Except.ok.inj h).symm⟩
        · cases h
      | _ => cases h
    | _ => cases h
  · cases h

/-! ### What is shown -/

/-- With a limit of at most twenty, what is shown for a factorial or a sum is an integer of 64 bits. -/
theorem makes_of_call (hlimit : limit ≤ 20) (hb : b = .factorial ∨ b = .add) (hcalled : called? line = some b)
    (h : call limit store line = .ok text) :
    ∃ argument k, Routes b line argument ∧ Makes store b argument k ∧ inRange k = true ∧ text = Text.ofInt k := by
  rw [call, hcalled] at h
  obtain ⟨argument, hargument, h⟩ := bind_ok_iff.mp h
  have hroutes : Routes b line argument := ⟨hcalled, hargument⟩
  rcases hb with rfl | rfl
  · obtain ⟨n, hn, hle, rfl⟩ := callFactorial_ok h
    have hfits := (factorial_fits_iff n.toNat).mpr (by omega)
    exact ⟨argument, _, hroutes, .factorial hn, inRange_iff.mpr hfits, rfl⟩
  · obtain ⟨first, second, m, n, hparameters, hfirst, hsecond, hrange, rfl⟩ := callAdd_ok h
    exact ⟨argument, _, hroutes, .sum hparameters hfirst hsecond, hrange, rfl⟩

/-- Calls of the functions for integers are exact. A factorial is that of its argument, and one below two, or it is
    refused for a limit, which is named if it can be written; a sum is that of its parameters, or it overflows. The
    factorials of 64 bits are those up to twenty, and if the limit is not above that, what is shown for a line is read
    back as the integer that the function makes of the arguments, whatever is bound by then. -/
theorem integer_calls_exact (limit : Int) (store : Store) (line : Text) :
    (∀ argument n, Routes .factorial line argument → evaluate store argument = .ok (.integer n) →
      (n ≤ limit → n ≤ 400 → call limit store line = .ok (Text.ofNat n.toNat.factorial)) ∧
      (n ≤ limit → n ≤ 1 → call limit store line = .ok "1".toText) ∧
      (limit < n → Decimal.isWritable limit = true → call limit store line = .error (.factorialTooLarge limit)) ∧
      (limit < n → Decimal.isWritable limit = false → call limit store line = .error .unwritable)) ∧
    (∀ argument first second m n, Routes .add line argument → parameters argument = [first, second] →
      evaluate store first = .ok (.integer m) → evaluate store second = .ok (.integer n) →
      (-(2 ^ 63) ≤ m + n ∧ m + n ≤ 2 ^ 63 - 1 → call limit store line = .ok (Text.ofInt (m + n))) ∧
      (¬(-(2 ^ 63) ≤ m + n ∧ m + n ≤ 2 ^ 63 - 1) → call limit store line = .error .addOverflow)) ∧
    ((Cause.factorialTooLarge limit).kind = .execution ∧ Cause.addOverflow.kind = .execution) ∧
    (∀ n : Nat, -(2 ^ 63) ≤ (n.factorial : Int) ∧ (n.factorial : Int) ≤ 2 ^ 63 - 1 ↔ n ≤ 20) ∧
    (limit ≤ 20 → ∀ b text, b = .factorial ∨ b = .add → called? line = some b → call limit store line = .ok text →
      ∃ argument k, Routes b line argument ∧ Makes store b argument k ∧ text = Text.ofInt k ∧
        ∀ later, evaluate later text = .ok (.integer k)) := by
  refine ⟨fun argument n hroutes hn => ?_, fun argument first second m n hroutes hparameters hfirst hsecond => ?_,
    ⟨rfl, rfl⟩, factorial_fits_iff, fun hlimit b text hb hcalled h => ?_⟩
  · have hcall : call limit store line = callFactorial limit store argument := hroutes.call
    have hrefused (hlt : limit < n) := hcall.trans (callFactorial_of_lt hn hlt)
    refine ⟨fun hle hdepth => ?_, fun hle hone => ?_, fun hlt hnamed => ?_, fun hlt hunnamed => ?_⟩
    · rw [hcall, callFactorial_of_value hn (by omega), if_neg (Int.not_lt.mpr hle)]
    · have hfactorial : n.toNat.factorial = 1 := Nat.factorial_eq_one.mpr (by omega)
      rw [hcall, callFactorial_of_value hn (by omega), if_neg (Int.not_lt.mpr hle), hfactorial]
      rfl
    · rw [hrefused hlt, Cause.naming_of_isWritable hnamed]
    · rw [hrefused hlt, Cause.naming_of_not_isWritable hunnamed]
  · have hcall : call limit store line = callAdd store argument := hroutes.call
    rw [hcall, callAdd_of_values hparameters hfirst hsecond, ← inRange_iff]
    exact ⟨fun h => if_pos h, fun h => if_neg h⟩
  · obtain ⟨argument, k, hroutes, hmakes, hrange, rfl⟩ := makes_of_call hlimit hb hcalled h
    exact ⟨argument, k, hroutes, hmakes, rfl, fun later => evaluate_ofInt hrange⟩

/-- Twenty is the last argument whose factorial is shown, and the least integer bounds a sum. -/
theorem integer_calls_exact_at_bounds :
    let store : Store := ⟨[("least".toText, .integer (-(2 ^ 63)))]⟩
    (call 20 store "factorial(20)".toText = .ok "2432902008176640000".toText ∧
      ∀ later, evaluate later "2432902008176640000".toText = .ok (.integer 2432902008176640000)) ∧
    call 20 store "factorial(least)".toText = .ok "1".toText ∧
    call 20 store "factorial(21)".toText = .error (.factorialTooLarge 20) ∧
    call 20 store "add(1, least)".toText = .ok "-9223372036854775807".toText ∧
    call 20 store "add(-1, least)".toText = .error .addOverflow := by
  intro store
  have hleast : evaluate store "least".toText = .ok (.integer (-(2 ^ 63))) := by decide +kernel
  have htwenty : call 20 store "factorial(20)".toText = .ok "2432902008176640000".toText :=
    ((integer_calls_exact 20 store "factorial(20)".toText).1 "20".toText 20 ⟨by decide, by decide⟩
      (by decide +kernel)).1 (by decide) (by decide)
  refine ⟨⟨htwenty, fun later => ?_⟩, ?_, ?_, ?_, ?_⟩
  · obtain ⟨-, k, -, -, -, hback⟩ := (integer_calls_exact 20 store "factorial(20)".toText).2.2.2.2 (by decide)
      .factorial _ (.inl rfl) (by decide) htwenty
    have hvalue : evaluate .empty "2432902008176640000".toText = .ok (.integer 2432902008176640000) := by decide +kernel
    obtain rfl := Value.integer.inj (Except.ok.inj ((hback .empty).symm.trans hvalue))
    exact hback later
  · exact ((integer_calls_exact 20 store "factorial(least)".toText).1 "least".toText _ ⟨by decide, by decide⟩
      hleast).2.1 (by decide) (by decide)
  · exact ((integer_calls_exact 20 store "factorial(21)".toText).1 "21".toText 21 ⟨by decide, by decide⟩
      (by decide +kernel)).2.2.1 (by decide) (by decide)
  · exact ((integer_calls_exact 20 store "add(1, least)".toText).2.1 "1, least".toText "1".toText "least".toText 1 _
      ⟨by decide, by decide⟩ (by decide) (by decide +kernel) hleast).1 (by decide)
  · exact ((integer_calls_exact 20 store "add(-1, least)".toText).2.1 "-1, least".toText "-1".toText "least".toText
      (-1) _ ⟨by decide, by decide⟩ (by decide) (by decide +kernel) hleast).2 (by decide)

/-- A limit of too many digits refuses an argument without being named. -/
theorem factorial_limit_unnamed :
    ∃ limit : Int, limit = -(10 ^ 5000) ∧ Routes .factorial "factorial(1)".toText "1".toText ∧
      evaluate .empty "1".toText = .ok (.integer 1) ∧ limit < 1 ∧
      call limit .empty "factorial(1)".toText = .error .unwritable ∧
      call limit .empty "factorial(1)".toText ≠ .error (.factorialTooLarge limit) := by
  have hroutes : Routes .factorial "factorial(1)".toText "1".toText := ⟨by decide, by decide⟩
  have hvalue : evaluate .empty "1".toText = .ok (.integer 1) := by decide +kernel
  have hlimit : -(10 ^ 5000) < (1 : Int) := Decimal.neg_pow_lt_one 5000
  have hunnamed : Decimal.isWritable (-(10 ^ 5000)) = false := Decimal.isWritable_neg_pow (by decide)
  have hrefused : call (-(10 ^ 5000)) .empty "factorial(1)".toText = .error .unwritable := by
    rw [hroutes.call, ← Cause.naming_of_not_isWritable hunnamed .factorialTooLarge]
    exact callFactorial_of_lt hvalue hlimit
  exact ⟨_, rfl, hroutes, hvalue, hlimit, hrefused, by rw [hrefused]; exact nofun⟩

end LineScript.Builtin
