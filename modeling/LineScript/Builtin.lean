import LineScript.Expression.Basic

/-! The built-in functions. A line calls the first of them, in the order of the table, whose name with
    an opening parenthesis occurs in it. -/

namespace LineScript

/-- The functions that a line can call. -/
inductive Builtin where
  | factorial
  | greet
  | add
deriving DecidableEq, Repr

namespace Builtin

/-- The table, in the order in which a line is matched against it. -/
def table : List Builtin := [.factorial, .greet, .add]

/-- How the function is called. -/
def name : Builtin → Text
  | .factorial => "factorial".toText
  | .greet => "greet".toText
  | .add => "add".toText

/-- What a call of the function looks like at its start. -/
def opening (b : Builtin) : Text := b.name ++ "(".toText

/-- The texts after which the arguments of a call begin; the first one that occurs counts. -/
def openings : Builtin → List Text
  | .greet => ["greet(name:".toText, Builtin.greet.opening]
  | b => [b.opening]

/-- The function that a line calls. -/
def called? (line : Text) : Option Builtin := table.find? fun b => Text.occurs b.opening line

/-- The text between the first opening that occurs in the line and the last closing parenthesis. -/
def arguments (b : Builtin) (line : Text) : Except Cause Text :=
  match b.openings.find? fun o => Text.occurs o line with
  | none => .error (.invalidCall b.name)
  | some o =>
    match Text.between? o ')' line with
    | none => .error (.invalidCall b.name)
    | some t => .ok t

/-- The largest argument whose factorial is computed at all. -/
def maxFactorialDepth [Host] : Int := Host.factorials

/-- The product of the integers from one to `n`. -/
def product : Nat → Nat
  | 0 => 1
  | n + 1 => (n + 1) * product n

/-- The factorial, which is one for every integer below two. -/
def factorialOf [Host] (n : Int) : Except Cause Nat :=
  if maxFactorialDepth < n then .error .tooDeep else .ok (product n.toNat)

/-- The text of the factorial, if it can be written. -/
def writeFactorial [Host] (n : Int) : Except Cause Text := do
  let k ← factorialOf n
  if Decimal.isWritable k then return Text.ofNat k else .error .unwritable

/-- The text of a factorial whose argument is at most `limit`. -/
def callFactorial [Host] (limit : Int) (store : Store) (argument : Text) : Except Cause Text := do
  match ← evaluate store argument with
  | .integer n => if limit < n then .error (.naming .factorialTooLarge limit) else writeFactorial n
  | _ => .error .factorialArgument

/-- The greeting of a text. -/
def callGreet [Host] (store : Store) (argument : Text) : Except Cause Text := do
  match ← evaluate store argument with
  | .string t => return "Hello, ".toText ++ t ++ "!".toText
  | _ => .error .greetArgument

/-- The text of the sum of two integers, which has 64 bits as well. -/
def callAdd [Host] (store : Store) (argument : Text) : Except Cause Text :=
  match (argument.splitOn (.char ',')).map Text.trim with
  | [first, second] => do
    let a ← evaluate store first
    let b ← evaluate store second
    match a, b with
    | .integer m, .integer n =>
      if inRange (m + n) then return Text.ofInt (m + n) else .error .addOverflow
    | _, _ => .error .addArgument
  | _ => .error .addArity

/-- The text of a call with the given arguments. -/
def apply [Host] (limit : Int) (store : Store) (argument : Text) : Builtin → Except Cause Text
  | .factorial => callFactorial limit store argument
  | .greet => callGreet store argument
  | .add => callAdd store argument

/-- The text of the call in a line; empty when the line calls no built-in. -/
def call [Host] (limit : Int) (store : Store) (line : Text) : Except Cause Text :=
  match called? line with
  | none => .ok []
  | some b => do
    let argument ← b.arguments line
    b.apply limit store argument

end Builtin
end LineScript
