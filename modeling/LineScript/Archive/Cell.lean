import LineScript.Archive.Name
import LineScript.Archive.Numeral
import LineScript.Decimal.Figures
import LineScript.Decimal.Notation
import LineScript.Value

/-! What a column holds. A value is first taken as it is; a text column then writes numbers out, and
    an integer column reads texts that are numbers and makes integers of whole floats. -/

namespace LineScript.Archive

/-- What a column of no fixed type can hold. -/
inductive Cell where
  | null
  | integer (n : Int)
  | real (x : Float)
  | text (t : Text)
deriving DecidableEq, Inhabited

namespace Cell

/-- A cell as it is answered. -/
def toJson : Cell → Json
  | .null => .null
  | .integer n => .int n
  | .real x => .float x
  | .text t => .str t

/-- The text that a column can hold, which is one that can be encoded. -/
def ofText (t : Text) : Except Refusal Cell :=
  match Text.unencodable? t with
  | some fault => .error (.unencodable fault)
  | none => .ok (.text t)

/-- The cell for the value at a position of a request. A float that is no number is null. -/
def ofJson (position : Nat) : Json → Except Refusal Cell
  | .null => .ok .null
  | .bool b => .ok (.integer (if b then 1 else 0))
  | .int n => if inRange n then .ok (.integer n) else .error .integerTooLarge
  | .float x => .ok (if Decimal.exact x = .undefined then .null else .real x)
  | .str t => ofText t
  | v => .error (.unsupported position v.kindName)

/-! ### Text columns -/

/-- How a text column writes a float: fifteen digits at most, positionally from 10^-4 to below 10^15. -/
def written : Decimal.Layout where
  digits := Decimal.figures
  plainFrom := -4
  plainBelow := 15
  exponentWidth := 2
  wideMantissa := true
  signedZero := false
  infinity := "Inf".toText
  undefined := []

/-- What a text column makes of a cell. -/
def textual : Cell → Option Text
  | .null => none
  | .integer n => some (Text.ofInt n)
  | .real x => some (written.write x)
  | .text t => some t

/-! ### Integer columns -/

/-- The integer for a whole float, short of the two ends of the range. -/
def ofFloat (x : Float) : Cell :=
  match Decimal.whole? x with
  | some n => if minInteger < n ∧ n < maxInteger then .integer n else .real x
  | none => .real x

/-- The cell for a number in a text: an integer where it is one and in range, otherwise a float. -/
def ofNumeral (x : Numeral) : Cell :=
  match x.integer?.filter inRange with
  | some n => .integer n
  | none => ofFloat x.toFloat

/-- What an integer column makes of a cell. -/
def integral : Cell → Cell
  | .real x => ofFloat x
  | .text t => ((Numeral.ofText? t).map ofNumeral).getD (.text t)
  | c => c

end Cell
end LineScript.Archive
