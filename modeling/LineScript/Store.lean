import LineScript.Value

/-! The variables of a run. Setting a name keeps its place if it is bound and adds it at the end
    otherwise. -/

namespace LineScript

/-- The bindings of a run, in the order in which their names were first bound. -/
structure Store where
  bindings : List (Text × Value)
deriving Inhabited

namespace Store

/-- The store before the first line. -/
def empty : Store := ⟨[]⟩

/-- The value bound to a name. -/
def get? (s : Store) (name : Text) : Option Value := s.bindings.lookup name

/-- The bindings with one of them changed, or added at their end. -/
def setIn (name : Text) (v : Value) : List (Text × Value) → List (Text × Value)
  | [] => [(name, v)]
  | b :: rest => if b.1 = name then (name, v) :: rest else b :: setIn name v rest

/-- The store in which `name` is bound to `v` and all else is as before. -/
def set (s : Store) (name : Text) (v : Value) : Store := ⟨setIn name v s.bindings⟩

end Store
end LineScript
