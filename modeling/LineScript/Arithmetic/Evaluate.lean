import LineScript.Arithmetic.Grammar.Reader
import LineScript.Arithmetic.Parser
import LineScript.Cause
import LineScript.Decimal.Exact
import LineScript.Host
import LineScript.Text.Blank
import LineScript.Text.Lines
import LineScript.Text.Normal

/-! Arithmetic over the numbers of a store. Integers are exact, and the quotient of two of them is
    cut toward zero; where an integer meets a float it becomes the nearest float. The value of the
    whole is cut to a 64-bit integer. Only plain arithmetic has a value. -/

namespace LineScript.Arithmetic

/-- Why an expression has no value. -/
inductive Fault where
  | failed
  | integerBeyondFloat
  | tooDeep
  | tooNested
  | misplaced
deriving DecidableEq, Repr

namespace Number

/-- The number as a float, if it is not too large for one. -/
def toFloat : Number → Except Fault Float
  | .float x => .ok x
  | .integer n =>
    match Decimal.ofInt? n with
    | some x => .ok x
    | none => .error .integerBeyondFloat

/-- Whether the number is zero, of either sign. -/
def isZero : Number → Bool
  | .integer n => n = 0
  | .float x => x == 0

/-- The number with the other sign. -/
def negate : Number → Number
  | .integer n => .integer (-n)
  | .float x => .float (-x)

end Number

/-- Both ways to apply an operator: exactly to integers, and to floats. -/
def combine (exact : Int → Int → Int) (near : Float → Float → Float) (left right : Number) :
    Except Fault Number :=
  match left, right with
  | .integer a, .integer b => .ok (.integer (exact a b))
  | _, _ => do
    let x ← left.toFloat
    let y ← right.toFloat
    return .float (near x y)

/-- What an operator makes of two numbers. A division by zero fails, and one of integers is cut toward zero. -/
def Operator.apply (op : Operator) (left right : Number) : Except Fault Number :=
  match op with
  | .add => combine (· + ·) (· + ·) left right
  | .subtract => combine (· - ·) (· - ·) left right
  | .multiply => combine (· * ·) (· * ·) left right
  | .divide => if right.isZero then .error .failed else combine Int.tdiv (· / ·) left right
  | .other => .error .failed

/-- What a sign makes of a number. -/
def Sign.apply : Sign → Number → Except Fault Number
  | .plus, n => .ok n
  | .minus, n => .ok n.negate
  | .other, _ => .error .failed

/-- The number bound to a name in its normal form. -/
def lookup (store : Store) (written : Text) : Except Fault Number :=
  match store.get? (Text.normalForm written) with
  | some (.integer n) => .ok (.integer n)
  | some (.float x) => .ok (.float x)
  | _ => .error .failed

/-- How many operators may nest. -/
def maxDepth [Host] : Nat := Host.operators

/-- The value of a tree with at most `depth` operators nested in it. The left operand comes first,
    and the first fault is the answer. -/
def evalTree (store : Store) : Nat → Tree → Except Fault Number
  | _, .number n => .ok n
  | _, .name written => lookup store written
  | _, .foreign _ _ => .error .failed
  | 0, _ => .error .tooDeep
  | depth + 1, .unary sign operand => do
    let n ← evalTree store depth operand
    sign.apply n
  | depth + 1, .binary op left right => do
    let a ← evalTree store depth left
    let b ← evalTree store depth right
    op.apply a b

/-- The height to which trees are built. -/
def maxHeight [Host] : Nat := Host.height

/-- The value of a tree, which is built before any part of it is evaluated. -/
def Tree.value [Host] (store : Store) (e : Tree) : Except Fault Number :=
  if maxHeight < e.height then .error .tooDeep else evalTree store maxDepth e

/-- Why what is read by the whole grammar has no value: the fault that ended the reading, or else the first one in the
    tree. -/
def faultOf [Host] (store : Store) : Except Halt Tree → Fault
  | .error .tooNested => .tooNested
  | .error .misplaced => .misplaced
  | .error _ => .failed
  | .ok e =>
    match e.value store with
    | .error fault => fault
    | .ok _ => .failed

/-- Why a text that is no plain arithmetic has no value. It may still be an expression, whose first
    fault is the answer. -/
def foreignFault [Host] (store : Store) (t : Text) : Fault := faultOf store (Grammar.tree t)

/-- The value of the expression that a text is; its line ends are line feeds. -/
def valueOf [Host] (store : Store) (t : Text) : Except Fault Number :=
  match Tree.ofTokens (tokens t) with
  | .ok e => e.value store
  | .error .tooNested => .error .tooNested
  | .error _ => .error (foreignFault store t)

/-- The number cut toward zero, if it is a finite one in the 64-bit range. -/
def Number.toInteger? (n : Number) : Option Int :=
  let whole := match n with
    | .integer i => some i
    | .float x => Decimal.truncate? x
  whole.filter inRange

/-- A text as it is read: without blanks around it, and with line feeds for its line ends. -/
def prepared (t : Text) : Text := Text.unifyBreaks (Text.trim t)

/-- What a fault in an expression means for the line that holds it. -/
def Fault.cause (t : Text) : Fault → Cause
  | .failed => .badArithmetic t
  | .integerBeyondFloat => .integerBeyondFloat
  | .tooDeep => .tooDeep
  | .tooNested => .outOfMemory
  | .misplaced => .misplaced

/-- The integer that an arithmetic expression denotes. -/
def evaluate [Host] (store : Store) (t : Text) : Except Cause Value :=
  match Text.unencodable? (Text.trim t) with
  | some fault => .error (.unencodable fault)
  | none =>
    if (Text.trim t).contains (.char '\x00') then .error .nullCharacter
    else match valueOf store (prepared t) with
      | .error fault => .error (fault.cause t)
      | .ok n =>
        match n.toInteger? with
        | none => .error (.badArithmetic t)
        | some i => .ok (.integer i)

end LineScript.Arithmetic
