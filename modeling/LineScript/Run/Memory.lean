import LineScript.Host
import LineScript.Statement

/-! The memory of a worker. A worker has 256 MiB of it, and a text takes at least a byte for each of its characters; so
    a text of that many does not fit, whatever else the worker holds. How much less fits depends on the worker. -/

namespace LineScript

/-- The markers whose names are bound, with the values of the names. -/
def Marker.bound (store : Store) (ms : List Marker) : List (Marker × Value) :=
  ms.filterMap fun m => (store.get? m.name).map fun v => (m, v)

/-- How long the values of bound markers are. -/
def Marker.coming (bound : List (Marker × Value)) : Nat :=
  bound.foldr (fun b n => b.2.display.length + n) 0

/-- How long bound markers are as they are written. -/
def Marker.going (bound : List (Marker × Value)) : Nat :=
  bound.foldr (fun b n => b.1.stop - b.1.start + n) 0

/-- How long a text is with its markers filled in; the text itself is not made for that. -/
def filledLength (store : Store) (t : Text) : Nat :=
  let bound := Marker.bound store (Marker.all t)
  t.length + Marker.coming bound - Marker.going bound

namespace Statement

/-- The expression that is the first to be evaluated in a line. -/
def expression? (line : Text) : Option Text :=
  match ofLine line, line.splitOn (.char '=') with
  | .print, _ => Text.between? printOpening ')' line
  | .declaration, [left, right] => ((declaredName? (Text.trim left)).filter (!·.isEmpty)).map fun _ => right
  | .assignment, [left, right] => if (Text.trim left).isEmpty then none else some right
  | .call, _ => do
    let b ← Builtin.called? line
    let argument ← (b.arguments line).toOption
    if b = .add then
      match argument.splitOn (.char ',') with
      | [first, _] => some first
      | _ => none
    else some argument
  | _, _ => none

/-- How many characters the text has that is filled in first in a line. -/
def filling (store : Store) (line : Text) : Nat :=
  (((expression? line).bind fun e => unquoted? (Text.trim e)).map (filledLength store)).getD 0

end Statement

namespace Worker

/-- The bytes that a worker has. -/
def memory : Nat := 256 * 1024 * 1024

/-- The process of a worker. A worker stands few calls deep, so that it nests as far as a caller that does. Its memory
    gives out at a text that it has no room for by itself. -/
@[reducible] def host : Host where
  factorials := 980
  operators := 480
  height := 2950
  givesOut _ store line := decide (memory ≤ Statement.filling store line)

end Worker
end LineScript
