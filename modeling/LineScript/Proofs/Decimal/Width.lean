import LineScript.Decimal.Notation
import Mathlib.Algebra.Order.Field.Basic
import Mathlib.Algebra.Order.Field.Rat
import Mathlib.Algebra.Order.GroupWithZero.Basic
import Mathlib.Tactic.Linarith
import Mathlib.Tactic.NormNum
import Mathlib.Tactic.Positivity
import Mathlib.Tactic.Ring

/-! How wide the text of a float is. Seventeen digits always read back: the grid of that many digits is finer than the
    reals that round to a float are wide, so that one of the two neighbours of the float lies among them. With a sign,
    a point and an exponent of three digits that makes twenty-four characters at most. -/

namespace LineScript.Decimal

variable {m k : Nat} {q g : Int} {s : Scaled}

/-! ### The size of a float -/

theorem pow_toNat {b : ℚ} (hb : b ≠ 0) (z : Int) : b ^ z.toNat = b ^ z * b ^ (-z).toNat := by
  have hz : (z.toNat : Int) = z + ((-z).toNat : Int) := by omega
  rw [← zpow_natCast, ← zpow_natCast, ← zpow_add₀ hb, ← hz]

theorem lt_pow_length (n : Nat) : n < 10 ^ (Nat.toDigits 10 n).length :=
  (Nat.length_toDigits_le_iff (by decide) Nat.length_toDigits_pos).mp le_rfl

theorem pow_length_le {n : Nat} (hn : 0 < n) : 10 ^ ((Nat.toDigits 10 n).length - 1) ≤ n := by
  by_cases hone : (Nat.toDigits 10 n).length ≤ 1
  · rw [Nat.sub_eq_zero_of_le hone]
    exact hn
  · by_contra hlt
    have hshort := (Nat.length_toDigits_le_iff (by decide) (by omega)).mpr (Nat.lt_of_not_le hlt)
    omega

/-- A float lies between the two powers of ten that its magnitude names. -/
theorem magnitude_bounds (hm : 0 < m) (hq : -1074 ≤ q) :
    (10 : ℚ) ^ (magnitude m q - 1) ≤ m * 2 ^ q ∧ (m * 2 ^ q : ℚ) < 10 ^ magnitude m q := by
  -- the places are kept abstract, so that no power of them is computed
  obtain ⟨places, hplaces⟩ : ∃ places, places = 400 := ⟨_, rfl⟩
  set top := m * 2 ^ q.toNat * 10 ^ places with htop
  set bottom := 2 ^ (-q).toNat with hbottom
  set length := (Nat.toDigits 10 (top / bottom)).length with hlength
  have hsize : magnitude m q = length - places := by rw [hlength, htop, hplaces, magnitude]; rfl
  have hpos : 0 < length := Nat.length_toDigits_pos
  have hbottompos : 0 < bottom := Nat.pow_pos (by decide)
  have hone : 0 < top / bottom := by
    refine Nat.div_pos ?_ hbottompos
    calc bottom ≤ 2 ^ 1074 := Nat.pow_le_pow_right (by decide) (by omega)
      _ ≤ 10 ^ places := by rw [hplaces]; decide +kernel
      _ ≤ top := Nat.le_mul_of_pos_left _ (Nat.mul_pos hm (Nat.pow_pos (by decide)))
  have hlow : 10 ^ (length - 1) * bottom ≤ top := (Nat.le_div_iff_mul_le hbottompos).mp (pow_length_le hone)
  have hhigh : top < 10 ^ length * bottom := (Nat.div_lt_iff_lt_mul hbottompos).mp (lt_pow_length _)
  have hvalue : (top : ℚ) = m * 2 ^ q * 10 ^ places * bottom := by
    rw [htop, hbottom]
    push_cast
    rw [pow_toNat (by norm_num)]
    ring
  have hbottomQ : (0 : ℚ) < bottom := by exact_mod_cast hbottompos
  have hscale : (0 : ℚ) < 10 ^ places := by positivity
  have hshift (z : Int) : (10 : ℚ) ^ (z - places) * 10 ^ places = 10 ^ z := by
    rw [← zpow_natCast, ← zpow_add₀ (by norm_num), sub_add_cancel]
  constructor
  · have hlowQ : (10 : ℚ) ^ ((length : Int) - 1) * bottom ≤ top := by
      rw [show (length : Int) - 1 = ((length - 1 : Nat) : Int) by omega, zpow_natCast]
      exact_mod_cast hlow
    rw [hvalue] at hlowQ
    refine le_of_mul_le_mul_right ?_ hscale
    rw [hsize, show (length : Int) - places - 1 = (length : Int) - 1 - places by ring, hshift]
    exact le_of_mul_le_mul_right hlowQ hbottomQ
  · have hhighQ : (top : ℚ) < 10 ^ (length : Int) * bottom := by
      rw [zpow_natCast]
      exact_mod_cast hhigh
    rw [hvalue] at hhighQ
    refine lt_of_mul_lt_mul_right ?_ hscale.le
    rw [hsize, hshift]
    exact lt_of_mul_lt_mul_right hhighQ hbottomQ.le

/-! ### The grids -/

/-- The distance of neighbours on the grid of `10^g`, in units that measure it and a quarter of `2^q`. -/
def spacing (q g : Int) : Nat := 10 ^ g.toNat * 2 ^ (-(q - 2)).toNat

/-- A quarter of `2^q` in the same units. -/
def quarter (q g : Int) : Nat := 2 ^ (q - 2).toNat * 10 ^ (-g).toNat

/-- The place of `m · 2^q` on the grid of `10^g`, which is on it or above it. -/
def place (m : Nat) (q g : Int) : Nat := 4 * m * quarter q g / spacing q g

/-- Whether a point of the grid reads back. -/
def readsBack (m : Nat) (q g : Int) (c : Nat) : Bool :=
  if (interval m q).closed then
    decide ((interval m q).lower * quarter q g ≤ c * spacing q g) &&
      decide (c * spacing q g ≤ (interval m q).upper * quarter q g)
  else
    decide ((interval m q).lower * quarter q g < c * spacing q g) &&
      decide (c * spacing q g < (interval m q).upper * quarter q g)

theorem spacing_pos (q g : Int) : 0 < spacing q g := Nat.mul_pos (Nat.pow_pos (by decide)) (Nat.pow_pos (by decide))

theorem quarter_pos (q g : Int) : 0 < quarter q g := Nat.mul_pos (Nat.pow_pos (by decide)) (Nat.pow_pos (by decide))

theorem quarter_mul (m : Nat) (q g : Int) :
    ((4 * m * quarter q g : Nat) : ℚ) * 10 ^ g = m * 2 ^ q * spacing q g := by
  have htwo := pow_toNat (b := 2) (by norm_num) (q - 2)
  have hten := pow_toNat (b := 10) (by norm_num) g
  have hquarter : (4 : ℚ) * 2 ^ (q - 2) = 2 ^ q := by
    rw [zpow_sub₀ (by norm_num)]
    norm_num
    ring
  rw [spacing, quarter, ← hquarter]
  push_cast
  rw [htwo, hten]
  ring

theorem onGrid?_eq (m : Nat) (q g : Int) : onGrid? m q g =
    match readsBack m q g (place m q g), readsBack m q g (place m q g + 1) with
    | true, true =>
      if 4 * m * quarter q g - place m q g * spacing q g < (place m q g + 1) * spacing q g - 4 * m * quarter q g ∨
          (4 * m * quarter q g - place m q g * spacing q g = (place m q g + 1) * spacing q g - 4 * m * quarter q g ∧
            place m q g % 2 = 0) then some ⟨place m q g, g⟩ else some ⟨place m q g + 1, g⟩
    | true, false => some ⟨place m q g, g⟩
    | false, true => some ⟨place m q g + 1, g⟩
    | false, false => none :=
  rfl

theorem onGrid?_some (h : onGrid? m q g = some s) : s.exponent = g ∧ s.coefficient ≤ place m q g + 1 := by
  rw [onGrid?_eq] at h
  split at h
  · split at h <;> cases h <;> simp
  · cases h
    simp
  · cases h
    simp
  · cases h

theorem onGrid?_none (h : onGrid? m q g = none) :
    readsBack m q g (place m q g) = false ∧ readsBack m q g (place m q g + 1) = false := by
  rw [onGrid?_eq] at h
  split at h
  · split at h <;> cases h
  · cases h
  · cases h
  · next hlow hhigh => exact ⟨hlow, hhigh⟩

theorem place_mul_le (m : Nat) (q g : Int) : place m q g * spacing q g ≤ 4 * m * quarter q g :=
  Nat.div_mul_le_self _ _

theorem lt_place_succ_mul (m : Nat) (q g : Int) : 4 * m * quarter q g < (place m q g + 1) * spacing q g :=
  (Nat.div_lt_iff_lt_mul (spacing_pos q g)).mp (Nat.lt_succ_self _)

theorem upper_mul (m : Nat) (q g : Int) :
    (interval m q).upper * quarter q g = 4 * m * quarter q g + 2 * quarter q g :=
  Nat.add_mul _ _ _

theorem lower_mul (hm : 0 < m) (q g : Int) :
    ∃ width ∈ [1, 2], (m ≠ 2 ^ 52 → width = 2) ∧
      (interval m q).lower * quarter q g + width * quarter q g = 4 * m * quarter q g := by
  by_cases hedge : m = 2 ^ 52 ∧ -1074 < q
  · refine ⟨1, by simp, fun hne => absurd hedge.1 hne, ?_⟩
    rw [interval, if_pos hedge, ← Nat.add_mul, Nat.sub_add_cancel (by omega)]
  · refine ⟨2, by simp, fun _ => rfl, ?_⟩
    rw [interval, if_neg hedge, ← Nat.add_mul, Nat.sub_add_cancel (by omega)]

/-- A point of the grid that does not read back lies outside of what rounds to the float, or at its edge. -/
theorem outside_of_readsBack {c : Nat} (h : readsBack m q g c = false) :
    c * spacing q g ≤ (interval m q).lower * quarter q g ∨ (interval m q).upper * quarter q g ≤ c * spacing q g := by
  unfold readsBack at h
  split at h <;> simp only [Bool.and_eq_false_iff, decide_eq_false_iff_not] at h <;> omega

/-- On a grid that is finer than what rounds to the float, a neighbour of the float reads back. -/
theorem onGrid?_ne_none (hm : 0 < m)
    (h : spacing q g < 3 * quarter q g ∨ m ≠ 2 ^ 52 ∧ spacing q g < 4 * quarter q g) : onGrid? m q g ≠ none := by
  intro hnone
  obtain ⟨hlow, hhigh⟩ := onGrid?_none hnone
  have hbelow := place_mul_le m q g
  have habove := lt_place_succ_mul m q g
  have hupper := upper_mul m q g
  obtain ⟨width, hwidth, hnormal, hlower⟩ := lower_mul hm q g
  have hpos := quarter_pos q g
  have hnext : (place m q g + 1) * spacing q g = place m q g * spacing q g + spacing q g := Nat.succ_mul _ _
  -- both neighbours lie outside, one on each side, so they are as far apart as the ends
  have hlow' := outside_of_readsBack hlow
  have hhigh' := outside_of_readsBack hhigh
  simp only [List.mem_cons, List.not_mem_nil, or_false] at hwidth
  rcases hwidth with rfl | rfl <;> omega

/-! ### Seventeen digits -/

/-- The grid of `k` digits holds the places of the float up to the power of ten `k`. -/
theorem place_lt (hm : 0 < m) (hq : -1074 ≤ q) : place m q (magnitude m q - k) < 10 ^ k := by
  rw [place, Nat.div_lt_iff_lt_mul (spacing_pos _ _)]
  have hten : (0 : ℚ) < 10 ^ (magnitude m q - k) := zpow_pos (by norm_num) _
  have hspacing : (0 : ℚ) < spacing q (magnitude m q - k) := by exact_mod_cast spacing_pos _ _
  have hsplit : (10 : ℚ) ^ k * 10 ^ (magnitude m q - k) = 10 ^ magnitude m q := by
    rw [← zpow_natCast, ← zpow_add₀ (by norm_num), add_sub_cancel]
  have hlt : ((4 * m * quarter q (magnitude m q - k) : Nat) : ℚ) < (10 ^ k * spacing q (magnitude m q - k) : Nat) := by
    refine lt_of_mul_lt_mul_right ?_ hten.le
    calc ((4 * m * quarter q (magnitude m q - k) : Nat) : ℚ) * 10 ^ (magnitude m q - k)
        = m * 2 ^ q * spacing q (magnitude m q - k) := quarter_mul _ _ _
      _ < 10 ^ magnitude m q * spacing q (magnitude m q - k) :=
        mul_lt_mul_of_pos_right (magnitude_bounds hm hq).2 hspacing
      _ = (10 ^ k * spacing q (magnitude m q - k) : Nat) * 10 ^ (magnitude m q - k) := by
        rw [← hsplit]
        push_cast
        ring
  exact_mod_cast hlt

/-- The grid of seventeen digits is that fine. -/
theorem spacing_seventeen (hm : 0 < m) (hq : -1074 ≤ q) :
    10 ^ 16 * spacing q (magnitude m q - 17) ≤ 4 * m * quarter q (magnitude m q - 17) := by
  have hten : (0 : ℚ) < 10 ^ (magnitude m q - 17) := zpow_pos (by norm_num) _
  have hsplit : (10 : ℚ) ^ 16 * 10 ^ (magnitude m q - 17) = 10 ^ (magnitude m q - 1) := by
    rw [← zpow_natCast, ← zpow_add₀ (by norm_num)]
    congr 1
    push_cast
    ring
  have hle : ((10 ^ 16 * spacing q (magnitude m q - 17) : Nat) : ℚ) ≤ (4 * m * quarter q (magnitude m q - 17) : Nat) := by
    refine le_of_mul_le_mul_right ?_ hten
    calc ((10 ^ 16 * spacing q (magnitude m q - 17) : Nat) : ℚ) * 10 ^ (magnitude m q - 17)
        = 10 ^ (magnitude m q - 1) * spacing q (magnitude m q - 17) := by
          rw [← hsplit]
          push_cast
          ring
      _ ≤ m * 2 ^ q * spacing q (magnitude m q - 17) :=
        mul_le_mul_of_nonneg_right (magnitude_bounds hm hq).1 (Nat.cast_nonneg _)
      _ = _ := (quarter_mul _ _ _).symm
  exact_mod_cast hle

theorem seventeen_found (hm : 0 < m) (hlt : m < 2 ^ 53) (hq : -1074 ≤ q) :
    onGrid? m q (magnitude m q - 17) ≠ none := by
  have hfine := spacing_seventeen hm hq
  have hpos := quarter_pos q (magnitude m q - 17)
  refine onGrid?_ne_none hm ?_
  by_cases hedge : m = 2 ^ 52
  · subst hedge
    left
    omega
  · right
    refine ⟨hedge, ?_⟩
    have hwide : m * quarter q (magnitude m q - 17) ≤ (2 ^ 53 - 1) * quarter q (magnitude m q - 17) :=
      Nat.mul_le_mul_right _ (by omega)
    rw [Nat.mul_assoc] at hfine
    omega

/-- The search ends on a grid of at most seventeen digits. -/
theorem search_bounds (hm : 0 < m) (hlt : m < 2 ^ 53) (hq : -1074 ≤ q) {tries k : Nat} (hk : 0 < k)
    (htries : 0 < tries) (hlast : k + tries = 18) :
    (search m q (magnitude m q) tries k).coefficient ≤ 10 ^ 17 ∧
      magnitude m q - 17 ≤ (search m q (magnitude m q) tries k).exponent ∧
      (search m q (magnitude m q) tries k).exponent < magnitude m q := by
  induction tries generalizing k with
  | zero => cases htries
  | succ tries ih =>
    rw [search]
    cases hgrid : onGrid? m q (magnitude m q - k) with
    | some s =>
      obtain ⟨hexponent, hcoefficient⟩ := onGrid?_some hgrid
      have hplace : place m q (magnitude m q - k) < 10 ^ k := place_lt hm hq
      have hdigits : 10 ^ k ≤ 10 ^ 17 := Nat.pow_le_pow_right (by decide) (by omega)
      rw [Option.getD_some]
      omega
    | none =>
      by_cases hdone : tries = 0
      · obtain rfl : k = 17 := by omega
        exact absurd hgrid (seventeen_found hm hlt hq)
      · exact ih (by omega) (by omega) (by omega)

theorem dropZeros_bounds (limit : Nat) (s : Scaled) :
    (dropZeros limit s).coefficient ≤ s.coefficient ∧ s.exponent ≤ (dropZeros limit s).exponent ∧
      (dropZeros limit s).exponent ≤ s.exponent + limit := by
  induction limit generalizing s with
  | zero => simp [dropZeros]
  | succ limit ih =>
    unfold dropZeros
    split
    · have hrest := ih ⟨s.coefficient / 10, s.exponent + 1⟩
      dsimp only at hrest
      omega
    · simp
      omega

/-- A power of ten is left with fewer digits. -/
theorem dropZeros_lt (limit : Nat) (h : s.coefficient ≤ 10 ^ 17) : (dropZeros (limit + 1) s).coefficient < 10 ^ 17 := by
  unfold dropZeros
  split
  · have hrest := (dropZeros_bounds limit ⟨s.coefficient / 10, s.exponent + 1⟩).1
    dsimp only at hrest
    omega
  · omega

theorem magnitude_ge (m : Nat) (q : Int) : -400 < magnitude m q := by
  have hpos : 0 < (Nat.toDigits 10 (m * 2 ^ q.toNat * 10 ^ 400 / 2 ^ (-q).toNat)).length := Nat.length_toDigits_pos
  unfold magnitude
  omega

theorem pow_lt_of_nat {a b i j : Nat} (h : a ^ i < b ^ j) : (a : ℚ) ^ i < (b : ℚ) ^ j := by
  exact_mod_cast h

theorem magnitude_le (hm : 0 < m) (hlt : m < 2 ^ 53) (hq : -1074 ≤ q) (hq' : q ≤ 971) : magnitude m q ≤ 309 := by
  have hlow := (magnitude_bounds hm hq).1
  have hm' : (m : ℚ) ≤ 2 ^ (53 : Int) := by exact_mod_cast hlt.le
  have hlargest : (m : ℚ) * 2 ^ q ≤ 2 ^ ((1024 : Nat) : Int) := by
    calc (m : ℚ) * 2 ^ q ≤ 2 ^ (53 : Int) * 2 ^ (971 : Int) :=
          mul_le_mul hm' (zpow_le_zpow_right₀ (by norm_num) hq') (zpow_pos (by norm_num) _).le
            (zpow_pos (by norm_num) _).le
      _ = 2 ^ ((1024 : Nat) : Int) := by rw [← zpow_add₀ (by norm_num)]; norm_num
  have hpower : (2 : ℚ) ^ ((1024 : Nat) : Int) < 10 ^ ((309 : Nat) : Int) := by
    rw [zpow_natCast, zpow_natCast]
    exact pow_lt_of_nat (by decide +kernel)
  have hsize := (zpow_lt_zpow_iff_right₀ (by norm_num)).mp (hlow.trans_lt (hlargest.trans_lt hpower))
  omega

/-- The shortest decimal of a float has at most seventeen digits, and an exponent of three. -/
theorem shortest_bounds (hlt : m < 2 ^ 53) (hq : -1074 ≤ q) (hq' : q ≤ 971) :
    (shortest m q).coefficient < 10 ^ 17 ∧ -420 < (shortest m q).exponent ∧ (shortest m q).exponent < 330 := by
  unfold shortest
  split
  · decide
  · next hm =>
    have hm : 0 < m := Nat.pos_of_ne_zero hm
    obtain ⟨hcoefficient, hlow, hhigh⟩ := search_bounds hm hlt hq (by decide : 0 < 1) (by decide : 0 < 17) rfl
    obtain ⟨-, hkeeps, hadds⟩ := dropZeros_bounds 20 (search m q (magnitude m q) 17 1)
    have hleast := magnitude_ge m q
    have hmost := magnitude_le hm hlt hq hq'
    exact ⟨dropZeros_lt 19 hcoefficient, by omega, by omega⟩

/-! ### The text -/

theorem exact_bounds {x : Float} {negative : Bool} (h : exact x = .finite negative m q) :
    m < 2 ^ 53 ∧ -1074 ≤ q ∧ q ≤ 971 := by
  unfold exact at h
  dsimp only at h
  split at h
  · split at h <;> cases h
  split at h
  · cases h
    omega
  · cases h
    omega

theorem length_ofNat_le_of_lt {n : Nat} (hn : n < 10 ^ k) (hk : 0 < k) : (Text.ofNat n).length ≤ k := by
  rw [Text.ofNat, Text.ofChars, List.length_map]
  exact (Nat.length_toDigits_le_iff (by decide) hk).mpr hn

theorem length_positional_le {digits : Text} {point : Int} (hdigits : digits.length ≤ 17) (hpoint : -3 ≤ point)
    (hplain : point ≤ 16) : (positional digits point).length ≤ 22 := by
  have hzero : "0.".toText.length = 2 := rfl
  have hend : ".0".toText.length = 2 := rfl
  have hmark : ".".toText.length = 1 := rfl
  unfold positional
  split
  · simp only [zeros, List.length_append, List.length_replicate, hzero]
    omega
  split
  · simp only [zeros, List.length_append, List.length_replicate, hend]
    omega
  · simp only [List.length_append, List.length_take, List.length_drop, hmark]
    omega

theorem length_scientific_le {digits : Text} {exponent : Int} (hdigits : digits.length ≤ 17)
    (hexponent : exponent.natAbs < 10 ^ 3) : (display.scientific digits exponent).length ≤ 23 := by
  have hpower : (Text.ofNat exponent.natAbs).length ≤ 3 := length_ofNat_le_of_lt hexponent (by decide)
  have hmark : (if exponent < 0 then "e-" else "e+").toText.length = 2 := by split <;> rfl
  have hwidth : display.exponentWidth = 2 := rfl
  have hplain : display.wideMantissa = false := rfl
  rcases digits with _ | ⟨first, _ | ⟨second, rest⟩⟩ <;>
    simp only [Layout.scientific, hplain, hwidth, hmark, zeros, List.length_append, List.length_replicate,
      List.length_cons, List.length_nil, Bool.false_eq_true, if_false] at hdigits ⊢ <;> omega

theorem length_magnitude_le (hcoefficient : s.coefficient < 10 ^ 17) (hlow : -420 < s.exponent)
    (hhigh : s.exponent < 330) : (display.magnitude s).length ≤ 23 := by
  have hdigits : (Text.ofNat s.coefficient).length ≤ 17 := length_ofNat_le_of_lt hcoefficient (by decide)
  have hfrom : display.plainFrom = -4 := rfl
  have hbelow : display.plainBelow = 16 := rfl
  unfold Layout.magnitude
  dsimp only
  split
  · decide
  split
  · exact (length_positional_le hdigits (by omega) (by omega)).trans (by decide)
  · exact length_scientific_le hdigits (by omega)

/-- A float is shown in at most twenty-four characters. -/
theorem length_write_le (x : Float) : (display.write x).length ≤ 24 := by
  have hsign (b : Bool) : (if b then "-" else "").toText.length ≤ 1 := by cases b <;> decide
  unfold Layout.write
  split
  · decide
  · next negative _ =>
    have hinfinity : display.infinity.length = 3 := rfl
    have hfirst := hsign negative
    rw [List.length_append, hinfinity]
    omega
  · next negative m q hx =>
    obtain ⟨hlt, hq, hq'⟩ := exact_bounds hx
    obtain ⟨hcoefficient, hlow, hhigh⟩ := shortest_bounds hlt hq hq'
    have hrest := length_magnitude_le hcoefficient hlow hhigh
    have hdigits : display.digits m q = shortest m q := rfl
    have hfirst := hsign (negative && (display.signedZero || m != 0))
    rw [List.length_append, hdigits]
    omega

/-- The largest float below zero takes all of them. -/
example : (display.write (Float.ofBits 0xFFEFFFFFFFFFFFFF)).length = 24 := by decide +kernel

end LineScript.Decimal
