import LineScript.Arithmetic.Grammar.Pattern
import LineScript.Text.Normal

/-! The trees of constructs, made of the trees of their parts. -/

namespace LineScript.Arithmetic.Grammar

/-- A construct without parts. -/
def leaf : Tree := .foreign 1 .plain

/-- How high the highest of some trees is. -/
def highest (parts : List Tree) : Nat := parts.foldl (fun h e => max h e.height) 0

/-- The construct over some parts. -/
def spanning (parts : List Tree) : Tree := .foreign (highest parts + 1) .plain

/-- An attribute or an item of the first part, which can be bound. -/
def place (parts : List Tree) : Tree := .foreign (highest parts + 1) .target

/-- A list of expressions. It can be bound if all of them can. -/
def packed (parts : List Tree) : Tree :=
  .foreign (highest parts + 1) (if parts.all fun e => e.role = .target then .target else .plain)

/-- An argument with a label, or a clause of a loop. -/
def labelled (parts : List Tree) : Tree := .foreign (highest parts + 1) .labelled

/-- The operand of a membership test. -/
def memberOperand (parts : List Tree) : Tree := .foreign (highest parts) .member

/-- A chain of comparisons. In the place of a variable a membership test stands for its first operand,
    since there its word begins the source of a loop; other comparisons are let pass. -/
def compared (parts : List Tree) : Tree :=
  let role : Role := match parts with
    | first :: second :: _ => if second.role = .member ∧ first.role ≠ .target then .plain else .target
    | _ => .plain
  .foreign (highest parts + 1) role

/-- An operator between two operands. -/
def joining (op : Operator) : List Tree → Tree
  | [left, right] => .binary op left right
  | parts => spanning parts

/-- An operator in front of an operand. -/
def signed (sign : Sign) : List Tree → Tree
  | [operand] => .unary sign operand
  | parts => spanning parts

/-! ### Conditions on mistakes -/

/-- Whether an expression is one of the two names that were statements once. -/
def isOldStatement : Tree → Bool
  | .name written => ["print", "exec"].any fun s => Text.normalForm written = s.toText
  | _ => false

/-- Whether the first part is one of those names. -/
def Match.beginsOldStatement (m : Match) : Bool := m.parts.head?.any fun p => isOldStatement p.tree

/-- The arguments without a label. -/
def Match.unlabelled (m : Match) : List Part := m.parts.filter fun p => p.tree.role ≠ .labelled

/-- The beginning of the last argument without a label. -/
def Match.lastUnlabelled (m : Match) : Spot :=
  .beginning ((m.unlabelled.getLast?.map Part.first).getD m.first)

end LineScript.Arithmetic.Grammar
