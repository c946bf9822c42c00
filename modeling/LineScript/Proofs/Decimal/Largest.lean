import LineScript.Decimal.Exact

/-! The integers that are too large for a float. A float has 53 bits, and what is cut off an integer is rounded
    to the nearest, a tie to the even one. So an integer is beyond the largest float, `2^1024 - 2^971`, from the
    point on that lies halfway between it and the next power of two: there the rounding carries into a bit that
    the exponent has no room for. -/

namespace LineScript.Decimal

open Float.Model (Format UnpackedFloat)
open Float.Model.UnpackedFloat (Accuracy ExtendedMantissa Sign pack packComponents packedInfinity
  roundWithAccuracy shiftToTargetExponent unpack unpackExponent unpackMantissa)

variable {n : Int} {N : Nat}

/-! ### Rounding a mantissa -/

theorem mantissa_shift (em : ExtendedMantissa) (k : Nat) : (em >>> k).mantissa = em.mantissa / 2 ^ k := by
  induction k with
  | zero => exact (Nat.div_one _).symm
  | succ k ih =>
    have hhalf : (em >>> (k + 1)).mantissa = (em >>> k).mantissa / 2 := rfl
    rw [hhalf, ih, Nat.div_div_eq_div_mul, Nat.pow_succ]

theorem roundBit_shift (em : ExtendedMantissa) (k : Nat) :
    (em >>> (k + 1)).roundBit = (em.mantissa / 2 ^ k % 2 != 0) := by
  rw [← mantissa_shift]
  rfl

/-- At most one is added. -/
theorem roundedMantissa_bounds (em : ExtendedMantissa) :
    em.mantissa ≤ em.roundedMantissa ∧ em.roundedMantissa ≤ em.mantissa + 1 := by
  obtain ⟨m, roundBit, stickyBit⟩ := em
  cases roundBit <;> cases stickyBit <;>
    simp only [ExtendedMantissa.roundedMantissa, ExtendedMantissa.accuracy, Accuracy.roundToNearestEven] <;> omega

/-- The next bit alone decides about an odd mantissa, because a tie goes to the even one. -/
theorem roundedMantissa_odd {em : ExtendedMantissa} (h : em.mantissa % 2 = 1) :
    em.roundedMantissa = em.mantissa + em.roundBit.toNat := by
  obtain ⟨m, roundBit, stickyBit⟩ := em
  cases roundBit <;> cases stickyBit <;>
    simp only [ExtendedMantissa.roundedMantissa, ExtendedMantissa.accuracy, Accuracy.roundToNearestEven,
      Bool.toNat_false, Bool.toNat_true] at h ⊢ <;> omega

/-- A carry goes through all of 53 bits exactly if they and the one after them are ones. -/
theorem carry_iff {k : Nat} (hN : N / 2 ^ k < 2 ^ 54) :
    ((⟨N * 2 ^ 53, false, false⟩ : ExtendedMantissa) >>> (k + 54)).roundedMantissa = 2 ^ 53 ↔
      2 ^ 54 - 1 ≤ N / 2 ^ k := by
  have hquotient : N * 2 ^ 53 / 2 ^ (k + 53) = N / 2 ^ k := by
    rw [Nat.pow_add, Nat.mul_div_mul_right _ _ (Nat.two_pow_pos 53)]
  have hmantissa := mantissa_shift ⟨N * 2 ^ 53, false, false⟩ (k + 54)
  have hbit := roundBit_shift ⟨N * 2 ^ 53, false, false⟩ (k + 53)
  dsimp only at hmantissa hbit
  rw [← Nat.add_assoc k 53 1, @Nat.pow_succ 2 (k + 53), ← Nat.div_div_eq_div_mul, hquotient] at hmantissa
  rw [hquotient] at hbit
  generalize (⟨N * 2 ^ 53, false, false⟩ : ExtendedMantissa) >>> (k + 54) = em at *
  generalize N / 2 ^ k = bits at *
  have hbounds := roundedMantissa_bounds em
  by_cases hodd : em.mantissa % 2 = 1
  · rw [roundedMantissa_odd hodd, hbit, hmantissa]
    by_cases hzero : bits % 2 = 0
    · simp only [hzero, bne_self_eq_false, Bool.toNat_false]
      omega
    · have hone : (bits % 2 != 0) = true := bne_iff_ne.mpr hzero
      rw [hone, Bool.toNat_true]
      omega
  · omega

/-! ### Rounding a float

A mantissa is shifted until it has 53 bits and rounded. Where that carries into another bit, it is shifted once
more. -/

/-- The exponent at which a mantissa is rounded. -/
def roundingExponent (m : Nat) (e : Int) : Int := max e (max (m.log2 + 1 + e - 53) (-1074))

/-- How many bits of a mantissa are cut off. -/
def cutBits (m : Nat) (e : Int) : Nat := (roundingExponent m e - e).toNat

/-- A mantissa after its first rounding. -/
def rounded (m : Nat) (e : Int) : Nat := ((⟨m, false, false⟩ : ExtendedMantissa) >>> cutBits m e).roundedMantissa

theorem shiftToTargetExponent_exact (m : Nat) (e : Int) : shiftToTargetExponent .binary64 m e .exact =
    ((⟨m, false, false⟩ : ExtendedMantissa) >>> cutBits m e, roundingExponent m e) := by
  have hbits : Format.binary64.mantissaBits = 53 := rfl
  have hleast : Format.binary64.minExponent = -1074 := by decide
  have hcut : (Format.binary64.targetExponent (Float.Model.totalExponent m e) - e).toNat = cutBits m e := by
    simp only [Format.targetExponent, Float.Model.totalExponent, cutBits, roundingExponent, hbits, hleast]
    omega
  have hexponent : e + (cutBits m e : Int) = roundingExponent m e := by
    simp only [cutBits, roundingExponent]
    omega
  simp only [shiftToTargetExponent, UnpackedFloat.shiftToExponent, hcut, hexponent,
    ExtendedMantissa.ofMantissaAndAccuracy]

/-- Cutting bits off leaves the others. -/
theorem quotient_lt (bits cut : Nat) (h : N.log2 < bits + cut) : N / 2 ^ cut < 2 ^ bits := by
  rw [Nat.div_lt_iff_lt_mul (Nat.two_pow_pos _), ← Nat.pow_add]
  exact Nat.lt_of_lt_of_le Nat.lt_log2_self (Nat.pow_le_pow_right (by decide) h)

theorem cut_lt (m : Nat) (e : Int) : m / 2 ^ cutBits m e < 2 ^ 53 := by
  refine quotient_lt 53 (cutBits m e) ?_
  simp only [cutBits, roundingExponent]
  omega

theorem rounded_bounds (m : Nat) (e : Int) :
    m / 2 ^ cutBits m e ≤ rounded m e ∧ rounded m e ≤ m / 2 ^ cutBits m e + 1 :=
  mantissa_shift ⟨m, false, false⟩ _ ▸ roundedMantissa_bounds _

theorem roundingExponent_rounded (m : Nat) (e : Int) : roundingExponent (rounded m e) (roundingExponent m e) =
    roundingExponent m e + if rounded m e = 2 ^ 53 then 1 else 0 := by
  have hleast : -1074 ≤ roundingExponent m e := by
    rw [roundingExponent]
    omega
  have hle := (rounded_bounds m e).2
  have hlt := cut_lt m e
  by_cases hcarry : rounded m e = 2 ^ 53
  · rw [if_pos hcarry, hcarry]
    have hlog : (2 ^ 53 : Nat).log2 = 53 := Nat.log2_two_pow
    simp only [roundingExponent, hlog] at *
    omega
  · rw [if_neg hcarry]
    have hlog : (rounded m e).log2 < 53 := by
      by_cases hzero : rounded m e = 0
      · rw [hzero]
        decide
      · exact (Nat.log2_lt hzero).mpr (by omega)
    generalize rounded m e = q at *
    generalize roundingExponent m e = k at *
    simp only [roundingExponent]
    omega

theorem roundWithAccuracy_exact (s : Sign) (m : Nat) (e : Int) : roundWithAccuracy .binary64 s m e .exact =
    if h : rounded m e / 2 ^ cutBits (rounded m e) (roundingExponent m e) = 0 then .zero s
    else .finite s _ (roundingExponent (rounded m e) (roundingExponent m e)) (Nat.pos_of_ne_zero h) := by
  unfold roundWithAccuracy
  rw [shiftToTargetExponent_exact]
  dsimp only
  rw [shiftToTargetExponent_exact]
  dsimp only
  rw [mantissa_shift]
  rfl

/-- What is rounded ends up at the exponent at which it was rounded, or one above. -/
theorem round_cases (s : Sign) (m : Nat) (e : Int) :
    (rounded m e = 0 ∧ roundWithAccuracy .binary64 s m e .exact = .zero s) ∨
      ∃ m' h, roundWithAccuracy .binary64 s m e .exact =
        .finite s m' (roundingExponent m e + if rounded m e = 2 ^ 53 then 1 else 0) h := by
  have hcut : cutBits (rounded m e) (roundingExponent m e) = if rounded m e = 2 ^ 53 then 1 else 0 := by
    rw [cutBits, roundingExponent_rounded]
    split <;> omega
  rw [roundWithAccuracy_exact]
  by_cases hzero : rounded m e / 2 ^ cutBits (rounded m e) (roundingExponent m e) = 0
  · rw [dif_pos hzero]
    refine .inl ⟨?_, rfl⟩
    rw [hcut] at hzero
    split at hzero <;> omega
  · rw [dif_neg hzero]
    exact .inr ⟨_, Nat.pos_of_ne_zero hzero, by rw [roundingExponent_rounded]⟩

/-! ### Infinite floats -/

/-- What an infinite float looks like. -/
structure InfiniteBits (b : BitVec 64) : Prop where
  exponent : @unpackExponent .binary64 b = -1#11
  mantissa : @unpackMantissa .binary64 b = 0#52

theorem toNat_unpackExponent (b : BitVec 64) :
    (@unpackExponent .binary64 b).toNat = b.toNat / 2 ^ 52 % 2 ^ 11 := by
  simp [unpackExponent, BitVec.extractLsb, BitVec.extractLsb'_toNat, Nat.shiftRight_eq_div_pow]

theorem toNat_unpackMantissa (b : BitVec 64) : (@unpackMantissa .binary64 b).toNat = b.toNat % 2 ^ 52 := by
  simp [unpackMantissa, BitVec.extractLsb, BitVec.extractLsb'_toNat, Nat.shiftRight_eq_div_pow]

theorem infiniteBits_iff {b : BitVec 64} :
    InfiniteBits b ↔ b.toNat / 2 ^ 52 % 2 ^ 11 = 2047 ∧ b.toNat % 2 ^ 52 = 0 := by
  rw [← toNat_unpackExponent, ← toNat_unpackMantissa]
  constructor
  · rintro ⟨he, hm⟩
    rw [he, hm]
    decide
  · rintro ⟨he, hm⟩
    exact ⟨BitVec.eq_of_toNat_eq he, BitVec.eq_of_toNat_eq hm⟩

theorem ofInt?_eq_none : ofInt? n = none ↔ InfiniteBits (Float.ofInt n).toBits.toBitVec := by
  rw [infiniteBits_iff, ofInt?, exact]
  generalize Float.ofInt n = x
  have hbits : x.toBits.toBitVec.toNat = x.toBits.toNat := rfl
  rw [hbits]
  generalize x.toBits.toNat = bits
  generalize bits / 2 ^ 52 % 2 ^ 11 = exponent
  generalize bits % 2 ^ 52 = fraction
  by_cases he : exponent = 2047
  · by_cases hm : fraction = 0 <;> simp [he, hm]
  · by_cases hz : exponent = 0 <;> simp [he, hz]

theorem toNat_packComponents (s : Sign) (e : BitVec 11) (m : BitVec 52) :
    (packComponents .binary64 s e m).toNat = (s.toBitVec.toNat * 2 ^ 11 + e.toNat) * 2 ^ 52 + m.toNat := by
  unfold packComponents
  rw [BitVec.toNat_append, BitVec.toNat_append, ← Nat.shiftLeft_add_eq_or_of_lt m.isLt,
    ← Nat.shiftLeft_add_eq_or_of_lt e.isLt, Nat.shiftLeft_eq, Nat.shiftLeft_eq]

theorem unpackExponent_pack (s : Sign) (e : BitVec 11) (m : BitVec 52) :
    unpackExponent (packComponents .binary64 s e m) = e := by
  apply BitVec.eq_of_toNat_eq
  have h := toNat_unpackExponent (packComponents .binary64 s e m)
  have hm := m.isLt
  have he := e.isLt
  rw [toNat_packComponents] at h
  omega

theorem unpackMantissa_pack (s : Sign) (e : BitVec 11) (m : BitVec 52) :
    unpackMantissa (packComponents .binary64 s e m) = m := by
  apply BitVec.eq_of_toNat_eq
  have h := toNat_unpackMantissa (packComponents .binary64 s e m)
  have hm := m.isLt
  rw [toNat_packComponents] at h
  omega

/-! ### Packing -/

/-- Whether a float is infinite once it is packed. -/
def Overflows : UnpackedFloat → Prop
  | .infinity _ => True
  | .finite _ _ e _ => 972 ≤ e
  | _ => False

theorem pack_finite (s : Sign) (m : Nat) (e : Int) (hm : 0 < m) : pack .binary64 (.finite s m e hm) =
    if 972 ≤ e then packedInfinity .binary64 s
    else packComponents .binary64 s (if m.log2 = 52 then BitVec.ofNat 11 (e + 1075).toNat else 0)
      (BitVec.ofNat 52 m) := by
  have hbiased : e + Format.binary64.exponentBias + Format.binary64.mantissaBitsWithoutImplicit = e + 1075 :=
    Int.add_assoc e 1023 52
  have hones : 2 ^ Format.binary64.exponentBits = 2048 := rfl
  have hbits : Format.binary64.mantissaBits = 53 := rfl
  unfold pack
  dsimp only
  rw [hbiased, hones, hbits]
  by_cases he : 972 ≤ e
  · rw [if_pos he, if_pos (by omega)]
  · rw [if_neg he, if_neg (by omega)]
    by_cases hlog : m.log2 = 52
    · rw [if_pos hlog, if_pos (congrArg (· + 1) hlog)]
    · rw [if_neg hlog, if_neg (by omega)]
      rfl

theorem infiniteBits_pack (u : UnpackedFloat) : InfiniteBits (pack .binary64 u) ↔ Overflows u := by
  cases u with
  | notANumber => exact ⟨fun h => absurd h.mantissa (by decide), fun h => h.elim⟩
  | infinity s => exact ⟨fun _ => trivial, fun _ => ⟨unpackExponent_pack s _ _, unpackMantissa_pack s _ _⟩⟩
  | zero s =>
    exact ⟨fun h => absurd ((unpackExponent_pack s _ _).symm.trans h.exponent) (by decide), fun h => h.elim⟩
  | finite s m e hm =>
    change _ ↔ 972 ≤ e
    rw [pack_finite]
    by_cases he : 972 ≤ e
    · rw [if_pos he]
      exact ⟨fun _ => he, fun _ => ⟨unpackExponent_pack s _ _, unpackMantissa_pack s _ _⟩⟩
    · rw [if_neg he]
      refine ⟨fun h => ?_, fun h => absurd h he⟩
      have hall : (if m.log2 = 52 then BitVec.ofNat 11 (e + 1075).toNat else 0).toNat = 2047 :=
        congrArg BitVec.toNat ((unpackExponent_pack s _ _).symm.trans h.exponent)
      split at hall
      · rw [BitVec.toNat_ofNat] at hall
        omega
      · exact absurd hall (by decide)

/-- What a word is unpacked to. -/
theorem unpack_cases (b : BitVec 64) :
    (InfiniteBits b ∧ ∃ s, unpack .binary64 b = .infinity s) ∨
    (¬InfiniteBits b ∧ (@unpackExponent .binary64 b).toNat = 2047 ∧ unpack .binary64 b = .notANumber) ∨
    (¬InfiniteBits b ∧ ∃ s, unpack .binary64 b = .zero s) ∨
    (¬InfiniteBits b ∧ ∃ s m e h, unpack .binary64 b = .finite s m e h ∧
      m < 2 ^ 53 ∧ e < 972 ∧ e ≤ max (((@unpackExponent .binary64 b).toNat : Int) - 1075) (-1074)) := by
  have hlt : (@unpackExponent .binary64 b).toNat < 2048 := BitVec.isLt _
  have hmantissa : (@unpackMantissa .binary64 b).toNat < 2 ^ 52 := BitVec.isLt _
  by_cases he : @unpackExponent .binary64 b = -1#11
  · by_cases hm : @unpackMantissa .binary64 b = 0#52
    · exact Or.inl ⟨⟨he, hm⟩, _, (if_pos he).trans (if_pos hm)⟩
    · exact Or.inr (Or.inl ⟨fun h => hm h.mantissa, congrArg BitVec.toNat he, (if_pos he).trans (if_neg hm)⟩)
  · have hinfinite : ¬InfiniteBits b := fun h => he h.exponent
    have hall : (@unpackExponent .binary64 b).toNat ≠ 2047 := fun h => he (BitVec.eq_of_toNat_eq h)
    by_cases hzero : @unpackExponent .binary64 b = 0#11
    · have hnone : (@unpackExponent .binary64 b).toNat = 0 := congrArg BitVec.toNat hzero
      by_cases hm : @unpackMantissa .binary64 b = 0#52
      · exact Or.inr (Or.inr (Or.inl ⟨hinfinite, _, (if_neg he).trans ((if_pos hzero).trans (dif_pos hm))⟩))
      · refine Or.inr (Or.inr (Or.inr ⟨hinfinite, _, _, ((@unpackExponent .binary64 b).toNat : Int) - 1075 + 1, _,
          (if_neg he).trans ((if_pos hzero).trans (dif_neg hm)), ?_, ?_, ?_⟩))
        · omega
        · omega
        · omega
    · refine Or.inr (Or.inr (Or.inr ⟨hinfinite, _, _, ((@unpackExponent .binary64 b).toNat : Int) - 1075, _,
        (if_neg he).trans (if_neg hzero), BitVec.isLt _, ?_, ?_⟩))
      · omega
      · omega

theorem overflows_unpack (b : BitVec 64) : Overflows (unpack .binary64 b) ↔ InfiniteBits b := by
  rcases unpack_cases b with ⟨h, s, hb⟩ | ⟨h, -, hb⟩ | ⟨h, s, hb⟩ | ⟨h, s, m, e, hm, hb, -, he, -⟩
  · rw [hb]
    exact ⟨fun _ => h, fun _ => trivial⟩
  · rw [hb]
    exact ⟨fun hover => hover.elim, fun hb => absurd hb h⟩
  · rw [hb]
    exact ⟨fun hover => hover.elim, fun hb => absurd hb h⟩
  · rw [hb]
    exact ⟨fun hover => absurd hover (Int.not_le.mpr he), fun hb => absurd hb h⟩

theorem infiniteBits_neg (x : Float) : InfiniteBits (-x).toBits.toBitVec ↔ InfiniteBits x.toBits.toBitVec := by
  have hneg (u : UnpackedFloat) : Overflows u.neg ↔ Overflows u := by cases u <;> rfl
  have h : (-x).toBits.toBitVec = pack .binary64 (unpack .binary64 x.toBits.toBitVec).neg := rfl
  rw [h, infiniteBits_pack, hneg, overflows_unpack]

/-! ### Integers below `2^53`

These are packed as they are and multiplied by one, which keeps them small. -/

/-- Far from being infinite. -/
def Moderate : UnpackedFloat → Prop
  | .zero _ => True
  | .finite _ m e _ => m < 2 ^ 53 ∧ e ≤ 1
  | _ => False

theorem moderate_unpack {b : BitVec 64} (h : (@unpackExponent .binary64 b).toNat ≤ 1076) :
    Moderate (unpack .binary64 b) := by
  rcases unpack_cases b with ⟨hb, -⟩ | ⟨-, hall, -⟩ | ⟨-, s, hb⟩ | ⟨-, s, m, e, hm, hb, hlt, -, he⟩
  · rw [hb.exponent] at h
    exact absurd h (by decide)
  · omega
  · rw [hb]
    trivial
  · rw [hb]
    exact ⟨hlt, by omega⟩

theorem moderate_unpack_pack {s : Sign} {m : Nat} {e : Int} {hm : 0 < m} (he : e ≤ 1) :
    Moderate (unpack .binary64 (pack .binary64 (.finite s m e hm))) := by
  refine moderate_unpack ?_
  rw [pack_finite, if_neg (by omega), unpackExponent_pack]
  split
  · have hle : (BitVec.ofNat 11 (e + 1075).toNat).toNat ≤ (e + 1075).toNat := by
      rw [BitVec.toNat_ofNat]
      exact Nat.mod_le _ _
    exact Nat.le_trans hle (by omega)
  · exact Nat.zero_le _

theorem ofNat_eq_round (hN : 0 < N) : ∃ k : Nat, UnpackedFloat.ofNat .binary64 N =
    roundWithAccuracy .binary64 .positive (N * 2 ^ k) (-k) .exact := by
  have hpositive : compare (N : Int) 0 = .gt := by
    rw [Int.compare_eq_gt]
    omega
  refine ⟨(0 - Format.binary64.targetExponent (Float.Model.totalExponent N 0)).toNat, ?_⟩
  rw [UnpackedFloat.ofNat, UnpackedFloat.ofInt, UnpackedFloat.normalize, hpositive]
  simp only [UnpackedFloat.round, UnpackedFloat.decreaseExponent, Int.toNat_natCast, Nat.shiftLeft_eq, Int.zero_sub]

theorem moderate_ofNat (hlt : N < 2 ^ 53) :
    Moderate (unpack .binary64 (pack .binary64 (UnpackedFloat.ofNat .binary64 N))) := by
  obtain rfl | hN := Nat.eq_zero_or_pos N
  · trivial
  obtain ⟨k, hround⟩ := ofNat_eq_round hN
  rw [hround]
  obtain ⟨-, hzero⟩ | ⟨m', hm', hround⟩ := round_cases .positive (N * 2 ^ k) (-k)
  · rw [hzero]
    trivial
  · rw [hround]
    refine moderate_unpack_pack ?_
    have hlog : (N * 2 ^ k).log2 < 53 + k := by
      have hne : N * 2 ^ k ≠ 0 := Nat.mul_ne_zero (Nat.ne_of_gt hN) (Nat.ne_of_gt (Nat.two_pow_pos k))
      rw [Nat.log2_lt hne, Nat.pow_add]
      exact Nat.mul_lt_mul_of_pos_right hlt (Nat.two_pow_pos k)
    have hexponent : roundingExponent (N * 2 ^ k) (-k) ≤ 0 := by
      simp only [roundingExponent]
      omega
    split <;> omega

theorem not_overflows_mul_one {u : UnpackedFloat} (h : Moderate u) :
    ¬Overflows (u.mul .binary64 (.finite .positive (2 ^ 52) (-52) (by decide))) := by
  cases u with
  | notANumber => exact h.elim
  | infinity => exact h.elim
  | zero => exact id
  | finite s m e hm =>
    obtain ⟨hlt, he⟩ := h
    have hlog : (m * 2 ^ 52).log2 < 105 := (Nat.log2_lt (by omega)).mpr (by omega)
    have hexponent : roundingExponent (m * 2 ^ 52) (e + -52) ≤ 1 := by
      simp only [roundingExponent]
      omega
    change ¬Overflows (roundWithAccuracy .binary64 (s * .positive) (m * 2 ^ 52) (e + -52) .exact)
    obtain ⟨-, hround⟩ | ⟨m', hm', hround⟩ := round_cases (s * .positive) (m * 2 ^ 52) (e + -52)
    · rw [hround]
      exact id
    · rw [hround]
      change ¬972 ≤ _
      split <;> omega

theorem not_infiniteBits_ofNat (hN : N < 2 ^ 53) : ¬InfiniteBits (Float.ofNat N).toBits.toBitVec := by
  have hsmall : N < 2 ^ 53 ∧ 0 ≤ 22 := ⟨hN, by decide⟩
  have hfloat : Float.ofNat N = N.toUInt64.toFloat * Float.ofBits 4607182418800017408 := by
    have h : Float.ofNat N = Float.ofScientific N false 0 := rfl
    rw [h]
    unfold Float.ofScientific
    rw [dif_pos hsmall]
    rfl
  have hproduct (x : Float) : (x * Float.ofBits 4607182418800017408).toBits.toBitVec =
      pack .binary64 ((unpack .binary64 x.toBits.toBitVec).mul .binary64
        (.finite .positive (2 ^ 52) (-52) (by decide))) := rfl
  have hword : N.toUInt64.toFloat.toBits.toBitVec = pack .binary64 (UnpackedFloat.ofNat .binary64 N) := by
    have hnat : N.toUInt64.toNat = N := Nat.mod_eq_of_lt (by omega)
    have hpack : N.toUInt64.toFloat.toBits.toBitVec =
        pack .binary64 (UnpackedFloat.ofNat .binary64 N.toUInt64.toNat) := rfl
    rw [hpack, hnat]
  rw [hfloat, hproduct, infiniteBits_pack, hword]
  exact not_overflows_mul_one (moderate_ofNat hN)

/-! ### Integers from `2^53` on -/

theorem toBits_ofNat (hN : 2 ^ 53 ≤ N) : (Float.ofNat N).toBits.toBitVec =
    pack .binary64 (roundWithAccuracy .binary64 .positive (N * 2 ^ 53) (-53) .exact) := by
  have hlarge : ¬(N < 2 ^ 53 ∧ 0 ≤ 22) := by omega
  have hzero : N ≠ 0 := by omega
  have hfloat : Float.ofNat N = ⟨Float.Model.ofScientific N 0⟩ := by
    have h : Float.ofNat N = Float.ofScientific N false 0 := rfl
    rw [h]
    unfold Float.ofScientific
    rw [dif_neg hlarge]
    rfl
  have hmodel : UnpackedFloat.ofScientific .binary64 N 0 = UnpackedFloat.mul .binary64
      (.finite .positive (N <<< 53) (-53) (by rw [Nat.shiftLeft_eq]; omega)) (.finite .positive 1 0 (by decide)) := by
    have hhigh : ¬((0 : Int) > 2 ^ Format.binary64.exponentBits) := by decide
    have hlow : ¬((0 : Int) < -(2 ^ Format.binary64.exponentBits + (N.log2 : Int))) := by
      have hpower : (2 : Int) ^ Format.binary64.exponentBits = 2048 := rfl
      omega
    rw [UnpackedFloat.ofScientific, dif_neg hzero, if_neg hhigh, if_neg hlow, if_pos (Int.le_refl 0)]
    rfl
  have hpack : (Float.ofModel (Float.Model.ofScientific N 0)).toBits.toBitVec =
      pack .binary64 (UnpackedFloat.ofScientific .binary64 N 0) := rfl
  rw [hfloat, hpack, hmodel]
  change pack .binary64 (roundWithAccuracy .binary64 .positive (N <<< 53 * 1) (-53 + 0) .exact) = _
  rw [Nat.shiftLeft_eq, Nat.mul_one, Int.add_zero]

theorem roundingExponent_large (hN : 2 ^ 53 ≤ N) : roundingExponent (N * 2 ^ 53) (-53) = N.log2 - 52 := by
  have hne : N ≠ 0 := by omega
  have hlow : 2 ^ N.log2 ≤ N := Nat.log2_self_le hne
  have hhigh : N < 2 ^ (N.log2 + 1) := Nat.lt_log2_self
  have hlog : (N * 2 ^ 53).log2 = N.log2 + 53 := by
    rw [Nat.log2_eq_iff (by omega), Nat.pow_add, Nat.add_right_comm, Nat.pow_add 2 (N.log2 + 1)]
    omega
  have hlarge : 53 ≤ N.log2 := (Nat.le_log2 hne).mpr hN
  rw [roundingExponent, hlog]
  omega

theorem cutBits_large (hN : 2 ^ 53 ≤ N) : cutBits (N * 2 ^ 53) (-53) = N.log2 + 1 := by
  have hlarge : 53 ≤ N.log2 := (Nat.le_log2 (by omega)).mpr hN
  rw [cutBits, roundingExponent_large hN]
  omega

theorem rounded_large (hN : 2 ^ 53 ≤ N) : rounded (N * 2 ^ 53) (-53) ≠ 0 := by
  have hlow : 2 ^ N.log2 ≤ N := Nat.log2_self_le (by omega)
  have hle := (rounded_bounds (N * 2 ^ 53) (-53)).1
  have hpos : 0 < N * 2 ^ 53 / 2 ^ (N.log2 + 1) := by
    refine Nat.div_pos ?_ (Nat.two_pow_pos _)
    rw [Nat.pow_succ]
    omega
  rw [cutBits_large hN] at hle
  omega

theorem overflows_large (hN : 2 ^ 53 ≤ N) :
    Overflows (roundWithAccuracy .binary64 .positive (N * 2 ^ 53) (-53) .exact) ↔
      1024 ≤ N.log2 + if rounded (N * 2 ^ 53) (-53) = 2 ^ 53 then 1 else 0 := by
  obtain ⟨hzero, -⟩ | ⟨m', hm', hround⟩ := round_cases .positive (N * 2 ^ 53) (-53)
  · exact absurd hzero (rounded_large hN)
  · rw [hround, roundingExponent_large hN]
    change 972 ≤ _ ↔ _
    split <;> omega

/-! ### The bound -/

/-- The place of the first bit that the largest float has no room for. -/
def halfPlace : Nat := 970

/-- The least integer that is too large for a float. -/
def floatBound : Nat := 2 ^ 1024 - 2 ^ 970

theorem floatBound_le_iff : floatBound ≤ N ↔ 2 ^ 54 - 1 ≤ N / 2 ^ halfPlace := by
  have hbound : floatBound = (2 ^ 54 - 1) * 2 ^ halfPlace := by decide +kernel
  rw [Nat.le_div_iff_mul_le (Nat.two_pow_pos halfPlace), hbound]

theorem overflows_iff (hN : 2 ^ 53 ≤ N) :
    Overflows (roundWithAccuracy .binary64 .positive (N * 2 ^ 53) (-53) .exact) ↔ floatBound ≤ N := by
  rw [overflows_large hN, floatBound_le_iff]
  have hplace : halfPlace = 970 := rfl
  obtain hbelow | htop | habove : N.log2 < 1023 ∨ N.log2 = 1023 ∨ 1024 ≤ N.log2 := by omega
  · have hlt : N / 2 ^ halfPlace < 2 ^ 53 := quotient_lt 53 halfPlace (by omega)
    refine iff_of_false ?_ (Nat.not_le.mpr (Nat.lt_trans hlt (by decide)))
    split <;> omega
  · have hlt : N / 2 ^ halfPlace < 2 ^ 54 := quotient_lt 54 halfPlace (by omega)
    have hcut : rounded (N * 2 ^ 53) (-53) =
        ((⟨N * 2 ^ 53, false, false⟩ : ExtendedMantissa) >>> (halfPlace + 54)).roundedMantissa := by
      rw [rounded, cutBits_large hN, htop, hplace]
    rw [← carry_iff hlt, hcut, htop]
    split
    · next hcarry => exact iff_of_true (Nat.le_refl 1024) hcarry
    · next hcarry => exact iff_of_false (by decide) hcarry
  · have hle : 2 ^ 54 ≤ N / 2 ^ halfPlace := by
      rw [Nat.le_div_iff_mul_le (Nat.two_pow_pos halfPlace), ← Nat.pow_add]
      exact Nat.le_trans (Nat.pow_le_pow_right (by decide) habove) (Nat.log2_self_le (by omega))
    exact iff_of_true (Nat.le_add_right_of_le habove) (Nat.le_trans (by decide) hle)

theorem infiniteBits_ofNat : InfiniteBits (Float.ofNat N).toBits.toBitVec ↔ floatBound ≤ N := by
  by_cases hN : N < 2 ^ 53
  · have hlt : N / 2 ^ halfPlace < 2 ^ 53 := Nat.lt_of_le_of_lt (Nat.div_le_self _ _) hN
    rw [floatBound_le_iff]
    exact iff_of_false (not_infiniteBits_ofNat hN) (Nat.not_le.mpr (Nat.lt_trans hlt (by decide)))
  · have hlarge : 2 ^ 53 ≤ N := Nat.not_lt.mp hN
    rw [toBits_ofNat hlarge, infiniteBits_pack, overflows_iff hlarge]

/-- A natural number that is too large has the positive infinite float. -/
theorem toBits_ofNat_infinite (h : floatBound ≤ N) :
    (Float.ofNat N).toBits.toBitVec = packedInfinity .binary64 .positive := by
  have hlarge : 2 ^ 53 ≤ N := Nat.le_trans (by decide +kernel) h
  have hover := (overflows_iff hlarge).mpr h
  rw [toBits_ofNat hlarge]
  obtain ⟨hzero, -⟩ | ⟨m', hm', hround⟩ := round_cases .positive (N * 2 ^ 53) (-53)
  · exact absurd hzero (rounded_large hlarge)
  · rw [hround] at hover
    change 972 ≤ _ at hover
    rw [hround, pack_finite, if_pos hover]

/-- An integer has a nearest float unless it is too large. -/
theorem ofInt?_eq_none_iff : ofInt? n = none ↔ floatBound ≤ n.natAbs := by
  rw [ofInt?_eq_none]
  cases n with
  | ofNat N => exact infiniteBits_ofNat
  | negSucc N =>
    have h : Float.ofInt (.negSucc N) = -Float.ofNat (N + 1) := rfl
    rw [h, infiniteBits_neg, infiniteBits_ofNat]
    rfl

end LineScript.Decimal
