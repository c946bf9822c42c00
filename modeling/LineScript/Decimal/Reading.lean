import LineScript.Decimal.Integer

/-! The float nearest to a written decimal number. Numbers far beyond the range of floats are told
    apart by their size before any power of ten is computed. -/

namespace LineScript.Decimal

/-- The float above all others. -/
def infinity : Float := Float.ofBits 0x7FF0000000000000

/-- The float nearest to `m · 10^e`. -/
def nearest (m : Nat) (e : Int) : Float :=
  let size := ((Nat.toDigits 10 m).length : Int) + e
  if m = 0 then 0
  else if 310 < size then infinity
  else if size < -330 then 0
  else Float.ofScientific m (decide (e < 0)) e.natAbs

/-- The float nearest to `whole.fraction · 10^exponent`, the parts being decimal digits. -/
def ofParts (whole fraction : Text) (exponent : Int) : Float :=
  nearest (natural (whole ++ fraction)) (exponent - fraction.length)

/-- The float with the sign that was read. -/
def negateIf (negative : Bool) (x : Float) : Float := if negative then -x else x

end LineScript.Decimal
