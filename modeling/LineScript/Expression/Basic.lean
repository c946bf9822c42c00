import LineScript.Arithmetic.Evaluate
import LineScript.Expression.Literal
import LineScript.Expression.Marker
import LineScript.Text.Search

/-! The value of an expression. The first reading that fits wins: a quoted text, a truth value, a
    number literal, a variable, and last arithmetic. -/

namespace LineScript

/-- What stands between the quotes of a text that begins and ends with one. A quote alone is both. -/
def unquoted? (t : Text) : Option Text :=
  if t.head? = some (.char '"') ∧ t.getLast? = some (.char '"') then some (t.drop 1).dropLast else none

/-- Whether the text holds a character that can be an operator. -/
def hasOperator (t : Text) : Bool := t.any fun c => c = '+' || c = '-' || c = '*' || c = '/'

/-- The value of an expression without blanks around it, when it is neither a quoted text nor a
    truth value. -/
def evaluateBare [Host] (store : Store) (t : Text) : Except Cause Value := do
  match ← Literal.integer? t with
  | some n => return .integer n
  | none =>
    match Literal.float? t with
    | some x => return .float x
    | none =>
      match store.get? t with
      | some v => return v
      | none =>
        if hasOperator t then Arithmetic.evaluate store t else .error (.unknownExpression t)

/-- The value of an expression in a store. -/
def evaluate [Host] (store : Store) (expression : Text) : Except Cause Value :=
  let t := Text.trim expression
  match unquoted? t with
  | some inside => .ok (.string (interpolate store inside))
  | none =>
    if t = "true".toText then .ok (.boolean true)
    else if t = "false".toText then .ok (.boolean false)
    else evaluateBare store t

end LineScript
