import LineScript.Builtin

/-! Statements. What a line is follows from what occurs in it, the first fitting reading winning: a
    print, a declaration, an assignment, a call, or nothing. -/

namespace LineScript

/-- The kinds of lines that are executed. -/
inductive Statement where
  | print
  | declaration
  | assignment
  | call
  | other
deriving DecidableEq, Repr

namespace Statement

/-- What tells a print. -/
def printOpening : Text := "print(".toText

/-- The word for a declaration. -/
def letWord : Text := "let ".toText

/-- The other word for a declaration. -/
def varWord : Text := "var ".toText

/-- The signs with which a line compares rather than assigns. -/
def comparisons : List Text := ["==".toText, "!=".toText, "<=".toText, ">=".toText]

/-- What kind of statement a line is. -/
def ofLine (line : Text) : Statement :=
  if Text.occurs printOpening line then .print
  else if Text.occurs letWord line || Text.occurs varWord line then .declaration
  else if line.contains (.char '=') && !comparisons.any fun c => Text.occurs c line then .assignment
  else if line.contains (.char '(') && line.contains (.char ')') then .call
  else .other

end Statement

/-- What a line does: it shows a text, which may be empty, or binds one name. -/
inductive Effect where
  | shows (t : Text)
  | binds (name : Text) (v : Value)
deriving DecidableEq

namespace Effect

/-- The store after the effect. -/
def store (s : Store) : Effect → Store
  | .shows _ => s
  | .binds name v => s.set name v

/-- The text that the effect shows. -/
def shown : Effect → Text
  | .shows t => t
  | .binds _ _ => []

end Effect

namespace Statement

/-- A print shows the value between its parentheses. -/
def runPrint [Host] (store : Store) (line : Text) : Except Cause Effect :=
  match Text.between? printOpening ')' line with
  | none => .error .invalidPrint
  | some content => do
    let v ← evaluate store content
    return .shows v.display

/-- The name after `let` or `var`. -/
def declaredName? (left : Text) : Option Text :=
  if letWord.isPrefixOf left || varWord.isPrefixOf left then some (Text.trim (left.drop 4)) else none

/-- A declaration binds the value behind its `=` to the name before it. -/
def runDeclaration [Host] (store : Store) (line : Text) : Except Cause Effect :=
  match line.splitOn (.char '=') with
  | [left, right] =>
    match declaredName? (Text.trim left) with
    | none => .error .invalidDeclaration
    | some name =>
      if name.isEmpty then .error .invalidDeclaration
      else do
        let v ← evaluate store (Text.trim right)
        return .binds name v
  | _ => .error .invalidDeclaration

/-- An assignment does so without a word before the name. -/
def runAssignment [Host] (store : Store) (line : Text) : Except Cause Effect :=
  match line.splitOn (.char '=') with
  | [left, right] =>
    let name := Text.trim left
    if name.isEmpty then .error .invalidAssignment
    else do
      let v ← evaluate store right
      return .binds name v
  | _ => .error .invalidAssignment

/-- A call shows what its function makes of the arguments. -/
def runCall [Host] (limit : Int) (store : Store) (line : Text) : Except Cause Effect := do
  let t ← Builtin.call limit store line
  return .shows t

/-- The effect of a line in a store. -/
def run [Host] (limit : Int) (store : Store) (line : Text) : Except Cause Effect :=
  match ofLine line with
  | .print => runPrint store line
  | .declaration => runDeclaration store line
  | .assignment => runAssignment store line
  | .call => runCall limit store line
  | .other => .ok (.shows [])

end Statement
end LineScript
