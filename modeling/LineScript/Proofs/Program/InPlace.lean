import LineScript.Proofs.Program.Effects

/-! The execution of a line in the store itself. Whatever fails does so before anything is written, and what is written
    is written last. So it makes no difference to find the effect of a line first and apply it then. -/

namespace LineScript.Statement

/-! ### Execution in place -/

/-- A computation that only reads the store. -/
def reading {α : Type} (f : Store → Except Cause α) : EStateM Cause Store α := fun store =>
  match f store with
  | .ok a => .ok a store
  | .error cause => .error cause store

/-- The value of an expression is found and then written. -/
def assign (fault : Cause) (name expression : Text) : EStateM Cause Store Text := do
  if name.isEmpty then throw fault
  let v ← reading (evaluate · expression)
  modify (·.set name v)
  return []

/-- A print reads the store and leaves it as it is. -/
def performPrint (line : Text) : EStateM Cause Store Text :=
  match Text.between? printOpening ')' line with
  | none => throw .invalidPrint
  | some content => do
    let v ← reading (evaluate · content)
    return v.display

/-- A declaration sets its name in the store, once the value is there. -/
def performDeclaration (line : Text) : EStateM Cause Store Text :=
  match line.splitOn (.char '=') with
  | [left, right] =>
    match declaredName? (Text.trim left) with
    | none => throw .invalidDeclaration
    | some name => assign .invalidDeclaration name (Text.trim right)
  | _ => throw .invalidDeclaration

/-- An assignment does so without a word before the name. -/
def performAssignment (line : Text) : EStateM Cause Store Text :=
  match line.splitOn (.char '=') with
  | [left, right] => assign .invalidAssignment (Text.trim left) right
  | _ => throw .invalidAssignment

/-- A line is executed in the store, and gives the text that it shows. -/
def perform (limit : Int) (line : Text) : EStateM Cause Store Text :=
  match ofLine line with
  | .print => performPrint line
  | .declaration => performDeclaration line
  | .assignment => performAssignment line
  | .call => reading (Builtin.call limit · line)
  | .other => return []

theorem reading_run {α : Type} (f : Store → Except Cause α) (store : Store) :
    (reading f).run store = match f store with
      | .ok a => .ok a store
      | .error cause => .error cause store :=
  rfl

theorem assign_settled (fault : Cause) (name expression : Text) (store : Store) :
    (assign fault name expression).run store =
      settled store (if name.isEmpty then .error fault else do
        let v ← evaluate store expression
        return .binds name v) := by
  unfold assign
  split
  · rfl
  · show EStateM.bind (reading (evaluate · expression)) _ store = _
    rw [EStateM.bind, reading]
    cases evaluate store expression <;> rfl

theorem performPrint_settled (line : Text) (store : Store) :
    (performPrint line).run store = settled store (runPrint store line) := by
  unfold performPrint runPrint
  cases Text.between? printOpening ')' line with
  | none => rfl
  | some content =>
    show EStateM.bind (reading (evaluate · content)) _ store = _
    dsimp only [EStateM.bind, reading]
    cases evaluate store content <;> rfl

theorem performDeclaration_settled (line : Text) (store : Store) :
    (performDeclaration line).run store = settled store (runDeclaration store line) := by
  unfold performDeclaration runDeclaration
  generalize line.splitOn (.char '=') = pieces
  rcases pieces with _ | ⟨left, _ | ⟨right, _ | _⟩⟩
  case cons.cons.nil =>
    dsimp only
    cases declaredName? (Text.trim left) with
    | none => rfl
    | some name => exact assign_settled .invalidDeclaration name (Text.trim right) store
  all_goals rfl

theorem performAssignment_settled (line : Text) (store : Store) :
    (performAssignment line).run store = settled store (runAssignment store line) := by
  unfold performAssignment runAssignment
  generalize line.splitOn (.char '=') = pieces
  rcases pieces with _ | ⟨left, _ | ⟨right, _ | _⟩⟩
  case cons.cons.nil => exact assign_settled .invalidAssignment (Text.trim left) right store
  all_goals rfl

/-- Executing a line in place comes to the same as finding its effect and applying it. -/
theorem perform_settled (limit : Int) (line : Text) (store : Store) :
    (perform limit line).run store = settled store (run limit store line) := by
  unfold perform run
  cases ofLine line with
  | print => exact performPrint_settled line store
  | declaration => exact performDeclaration_settled line store
  | assignment => exact performAssignment_settled line store
  | call =>
    show (reading (Builtin.call limit · line)).run store = settled store (runCall limit store line)
    rw [reading_run, runCall]
    cases Builtin.call limit store line <;> rfl
  | other => rfl

/-- Whatever the line and the store, the execution of the line in place is all or nothing. It fails and leaves the store
    as it was; or shows a text, which prints and calls do, and leaves the store as it was; or, being a declaration or
    an assignment, shows nothing and sets one name to the value that stands for it in the store before. -/
theorem perform_atomic (limit : Int) (store : Store) (line : Text) :
    Leaves limit store line (run limit store line) ((perform limit line).run store) := by
  rw [perform_settled]
  exact run_leaves limit store line

/-- The right side reads the name that is about to be overwritten, and a line that also compares binds nothing. -/
example :
    (perform 20 "n = \"\\(n)!\"".toText).run ⟨[("n".toText, .integer 21)]⟩ = .ok [] ⟨[("n".toText, .string "21!".toText)]⟩ ∧
    (perform 20 "n = n >= 2".toText).run ⟨[("n".toText, .integer 21)]⟩ = .ok [] ⟨[("n".toText, .integer 21)]⟩ := by
  constructor <;> rfl

end LineScript.Statement
