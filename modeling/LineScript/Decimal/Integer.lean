import LineScript.Text.Basic

/-! Integers in decimal text. A text of more digits than the limit, leading zeros included, is not
    read as an integer at all. -/

-- Powers are the core ones everywhere, so that they mean the same where the algebra of a proof has others.
attribute [instance (high + 1), default_instance (high + 1)] instPowNat

namespace LineScript.Decimal

/-- The most digits that are read as an integer, or written of one. -/
def maxDigits : Nat := 4300

/-- Whether an integer has few enough digits to be written. -/
def isWritable (n : Int) : Bool := decide ((Text.ofNat n.natAbs).length ≤ maxDigits)

theorem isWritable_iff {n : Int} : isWritable n = true ↔ n.natAbs < 10 ^ maxDigits := by
  rw [isWritable, decide_eq_true_iff, Text.ofNat, Text.ofChars, List.length_map]
  exact Nat.length_toDigits_le_iff (by decide) (by decide)

theorem isWritable_neg_pow {k : Nat} (h : maxDigits ≤ k) : isWritable (-(10 ^ k)) = false := by
  rw [Bool.eq_false_iff, Ne, isWritable_iff, Int.natAbs_neg, Int.natAbs_pow, Nat.not_lt]
  exact Nat.pow_le_pow_right (by decide) h

theorem neg_pow_lt_one (k : Nat) : -(10 ^ k) < (1 : Int) :=
  Int.lt_of_le_of_lt (Int.neg_nonpos_of_nonneg (Int.pow_nonneg (by decide))) Int.one_pos

/-- The number that a text of decimal digits denotes. -/
def natural (digits : Text) : Nat := Nat.ofDigitChars 10 (Text.chars digits) 0

/-- The integer of a sign and a magnitude. -/
def signed (negative : Bool) (n : Nat) : Int := if negative then -(n : Int) else n

/-- The complaint about an integer with too many digits. -/
def longIntegerMessage (digits : Nat) : Text :=
  "Exceeds the limit (4300 digits) for integer string conversion: value has ".toText ++
    Text.ofNat digits ++
    " digits; use sys.set_int_max_str_digits() to increase the limit".toText

/-- The complaint about an integer that is not written because of its many digits. -/
def unwritableMessage : Text :=
  "Exceeds the limit (4300 digits) for integer string conversion; ".toText ++
    "use sys.set_int_max_str_digits() to increase the limit".toText

end LineScript.Decimal
