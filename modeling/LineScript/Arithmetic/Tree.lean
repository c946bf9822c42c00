import LineScript.Arithmetic.Token

/-! Expressions as trees. -/

namespace LineScript.Arithmetic

/-- An operator between two operands; `other` is one without a meaning for numbers here. -/
inductive Operator where
  | add
  | subtract
  | multiply
  | divide
  | other
deriving DecidableEq, Repr

/-- An operator in front of its operand. -/
inductive Sign where
  | plus
  | minus
  | other
deriving DecidableEq, Repr

/-- What an expression can be to the construct around it: something that can be bound, the operand of a
    membership test, an argument or a clause that begins with a word or a label, or nothing special. -/
inductive Role where
  | plain
  | target
  | member
  | labelled
deriving DecidableEq, Repr

/-- An expression. What is neither a number, a name nor an operation is foreign, and only its height and
    its role are kept. -/
inductive Tree where
  | number (n : Number)
  | name (written : Text)
  | unary (sign : Sign) (operand : Tree)
  | binary (op : Operator) (left right : Tree)
  | foreign (height : Nat) (role : Role)
deriving DecidableEq, Inhabited

/-- How many constructs nest in an expression. -/
def Tree.height : Tree → Nat
  | .number _ => 1
  | .name _ => 1
  | .unary _ operand => operand.height + 1
  | .binary _ left right => max left.height right.height + 1
  | .foreign height _ => height

/-- The role of an expression; a name can be bound. -/
def Tree.role : Tree → Role
  | .name _ => .target
  | .foreign _ role => role
  | _ => .plain

/-- Why a text gives no tree. -/
inductive Halt where
  /-- It is no expression. -/
  | malformed
  /-- Something in it ends all reading. If that is not in the first line, its column is known, which
      counts bytes from one. -/
  | spoiled (column : Option Nat)
  /-- Something inside a quoted text ends all reading, and cannot even be reported: its column is
      counted from a place further to the right. -/
  | misplaced
  /-- Too much is nested in it to be read. -/
  | tooNested
deriving DecidableEq, Repr

/-! ### Levels

Whoever reads an expression goes down a ladder of ranks, from the expression to the operand, and each
rung is a level of its own. -/

/-- The deepest level. -/
def maxLevel : Nat := 6000

/-- The level of the first factor of a text. -/
def firstLevel : Nat := 20

/-- How far an operand lies below its factor. -/
def operandDepth : Nat := 5

/-- How far below its factor what follows an opening parenthesis is looked at first. -/
def openingDepth : Nat := 9

/-- How far the factors inside a parenthesis lie below its own. -/
def insideDepth : Nat := 28

end LineScript.Arithmetic
