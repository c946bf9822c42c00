import LineScript.Store

/-! Markers in a text: a backslash and a name in parentheses stand for the value of the name. A
    marker whose name is not bound stays as it is written. -/

namespace LineScript

/-- A marker, from its backslash at `start` to the place after its closing parenthesis. -/
structure Marker where
  start : Nat
  stop : Nat
  name : Text
deriving DecidableEq, Repr

namespace Marker

/-- The name of the marker that the text begins with: at least one character, none of them a
    closing parenthesis. -/
def name? : Text → Option Text
  | .char '\\' :: .char '(' :: rest =>
    let name := rest.takeWhile (fun c : CodePoint => c ≠ ')')
    if name.isEmpty || name.length = rest.length then none else some name
  | _ => none

/-- The markers of a text that begins at `position`, from the left. The first `skip` characters
    belong to the marker before. -/
def scan (position : Nat) : Nat → Text → List Marker
  | _, [] => []
  | skip + 1, _ :: rest => scan (position + 1) skip rest
  | 0, c :: rest =>
    match name? (c :: rest) with
    | some name =>
      ⟨position, position + name.length + 3, name⟩ :: scan (position + 1) (name.length + 2) rest
    | none => scan (position + 1) 0 rest

/-- The markers of a text, from the left; no two overlap. -/
def all (t : Text) : List Marker := scan 0 0 t

/-- The text with one marker replaced by the value of its name. -/
def fill (store : Store) (m : Marker) (t : Text) : Text :=
  match store.get? m.name with
  | none => t
  | some v => t.take m.start ++ v.display ++ t.drop m.stop

end Marker

/-- The text with its markers replaced, the last one first, so that the places of the others hold. -/
def interpolate (store : Store) (t : Text) : Text := (Marker.all t).foldr (Marker.fill store) t

end LineScript
