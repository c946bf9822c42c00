import LineScript.Expression.Basic
import LineScript.Proofs.Program.Variables
import LineScript.Proofs.Text.Pieces

/-! Expressions that are neither quoted nor words for a truth value. These are literals of numbers, names of
    variables or arithmetic, in this order, and the store has a say only from the names on. -/

namespace LineScript

variable {store : Store} {t : Text} {v : Value}

/-- Without blanks around it, quotes in it or a truth value for it, an expression is read as it stands. -/
theorem evaluate_eq_bare (htrim : Text.trim t = t) (hquote : .char '"' ∉ t) (htrue : t ≠ "true".toText)
    (hfalse : t ≠ "false".toText) : evaluate store t = evaluateBare store t := by
  have hunquoted : unquoted? t = none := by
    rw [unquoted?, if_neg]
    rintro ⟨hhead, -⟩
    exact hquote (List.mem_of_mem_head? hhead)
  rw [evaluate, htrim, hunquoted]
  dsimp only
  rw [if_neg htrue, if_neg hfalse]

/-- What is no literal of a number is a variable if there is one of that name. -/
theorem evaluateBare_of_get? (hinteger : Literal.integer? t = .ok none) (hfloat : Literal.float? t = none)
    (h : store.get? t = some v) : evaluateBare store t = .ok v := by
  simp [evaluateBare, hinteger, hfloat, h, bind, Except.bind, pure, Except.pure]

/-- What is no literal and no variable, and has an operator in it, is arithmetic. -/
theorem evaluateBare_of_operator (hinteger : Literal.integer? t = .ok none) (hfloat : Literal.float? t = none)
    (h : store.get? t = none) (hoperator : hasOperator t = true) :
    evaluateBare store t = Arithmetic.evaluate store t := by
  simp [evaluateBare, hinteger, hfloat, h, hoperator, bind, Except.bind]

end LineScript
