import LineScript.Text.Basic

/-! JSON values. Integers are unbounded and distinct from floats; an object keeps its members in the
    order in which their names first appeared. -/

namespace LineScript

/-- A value of JSON. The members of an object are in order, and integers are apart from floats. -/
inductive Json where
  | null
  | bool (b : Bool)
  | int (n : Int)
  | float (x : Float)
  | str (t : Text)
  | arr (items : List Json)
  | obj (members : List (Text × Json))
deriving Inhabited

namespace Json

/-- The member of that name in a list of members. -/
def lookup (name : Text) (members : List (Text × Json)) : Option Json := members.lookup name

/-- The members with the value under `name` replaced in its place, or added at the end. -/
def put (name : Text) (value : Json) : List (Text × Json) → List (Text × Json)
  | [] => [(name, value)]
  | m :: rest => if m.1 = name then (name, value) :: rest else m :: put name value rest

/-- Whether a value counts as true where a yes or no is wanted: null, false, zero and everything
    empty do not. -/
def truthy : Json → Bool
  | .null => false
  | .bool b => b
  | .int n => n != 0
  | .float x => x != 0
  | .str t => !t.isEmpty
  | .arr items => !items.isEmpty
  | .obj members => !members.isEmpty

/-- The word for the kind of a value in messages. -/
def kindName : Json → Text
  | .null => "NoneType".toText
  | .bool _ => "bool".toText
  | .int _ => "int".toText
  | .float _ => "float".toText
  | .str _ => "str".toText
  | .arr _ => "list".toText
  | .obj _ => "dict".toText

/-- A text, or null for none. -/
def ofText? (t : Option Text) : Json := (t.map .str).getD .null

end Json
end LineScript
