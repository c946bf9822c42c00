import LineScript.Proofs.Arithmetic.Formula

/-! Ways to write a formula: with spaces and tabs between the tokens, with the parentheses that the ranks of
    the operations and their grouping to the left require, and with any more of them. -/

namespace LineScript.Arithmetic

/-- A blank character between two tokens. -/
inductive Space where
  | blank
  | tab
deriving DecidableEq, Repr

/-- The character of a space. -/
def Space.point : Space → CodePoint
  | .blank => ' '
  | .tab => '\t'

/-- The text of a gap. -/
def gapText (gap : List Space) : Text := gap.map Space.point

namespace Operation

/-- The sign of a number is written like the operation it belongs to. -/
def ofSign (negative : Bool) : Operation := if negative then .minus else .plus

/-- The character of an operation. -/
def mark : Operation → CodePoint
  | .plus => '+'
  | .minus => '-'
  | .times => '*'
  | .dividedBy => '/'

/-- The token of an operation. -/
def token : Operation → Token
  | .plus => .plus
  | .minus => .minus
  | .times => .star
  | .dividedBy => .slash

/-- How closely an operation binds. -/
def rank : Operation → Nat
  | .plus => 0
  | .minus => 0
  | .times => 1
  | .dividedBy => 1

end Operation

/-- A formula as it is written. -/
inductive Layout where
  | literal (n : Nat)
  | name (x : Text)
  | signed (negative : Bool) (gap : List Space) (operand : Layout)
  | joined (op : Operation) (left : Layout) (before after : List Space) (right : Layout)
  | bracketed (before : List Space) (inside : Layout) (after : List Space)
deriving DecidableEq, Repr

namespace Layout

/-- The text of a layout. -/
def text : Layout → Text
  | .literal n => Text.ofNat n
  | .name x => x
  | .signed negative gap e => (Operation.ofSign negative).mark :: (gapText gap ++ e.text)
  | .joined op l before after r => l.text ++ (gapText before ++ op.mark :: (gapText after ++ r.text))
  | .bracketed before e after => .char '(' :: (gapText before ++ (e.text ++ (gapText after ++ [.char ')'])))

/-- What is written, without the brackets. -/
def formula : Layout → Formula
  | .literal n => .literal n
  | .name x => .name x
  | .signed negative _ e => .signed negative e.formula
  | .joined op l _ _ r => .joined op l.formula r.formula
  | .bracketed _ e _ => e.formula

/-- The tokens of a layout, in which its gaps do not show. -/
def tokens : Layout → List Token
  | .literal n => [.number (.integer n)]
  | .name x => [.name x]
  | .signed negative _ e => (Operation.ofSign negative).token :: e.tokens
  | .joined op l _ _ r => l.tokens ++ op.token :: r.tokens
  | .bracketed _ e _ => .opening :: (e.tokens ++ [.closing])

/-- How closely the outermost operation binds; a factor binds closest. -/
def rank : Layout → Nat
  | .joined op _ _ _ _ => op.rank
  | _ => 2

/-- No bracket is missing: an operand of an operation binds at least as closely as the operation, one on
    its right more closely, and one under a sign is a factor. -/
def Grouped : Layout → Prop
  | .literal _ => True
  | .name _ => True
  | .signed _ _ e => 2 ≤ e.rank ∧ e.Grouped
  | .joined op l _ _ r => op.rank ≤ l.rank ∧ op.rank < r.rank ∧ l.Grouped ∧ r.Grouped
  | .bracketed _ e _ => e.Grouped

instance Grouped.decidable : DecidablePred Grouped
  | .literal _ => isTrue trivial
  | .name _ => isTrue trivial
  | .signed _ _ e => have := decidable e; inferInstanceAs (Decidable (2 ≤ e.rank ∧ e.Grouped))
  | .joined op l _ _ r =>
    have := decidable l
    have := decidable r
    inferInstanceAs (Decidable (op.rank ≤ l.rank ∧ op.rank < r.rank ∧ l.Grouped ∧ r.Grouped))
  | .bracketed _ e _ => decidable e

/-- How many brackets nest. -/
def brackets : Layout → Nat
  | .literal _ => 0
  | .name _ => 0
  | .signed _ _ e => e.brackets
  | .joined _ l _ _ r => max l.brackets r.brackets
  | .bracketed _ e _ => e.brackets + 1

/-- How many levels the deepest operand lies below the start: one for each sign before it, and those that
    are opened for each bracket around it. -/
def descent : Layout → Nat
  | .literal _ => 0
  | .name _ => 0
  | .signed _ _ e => e.descent + 1
  | .joined _ l _ _ r => max l.descent r.descent
  | .bracketed _ e _ => e.descent + insideDepth

end Layout

/-- Every literal has as many digits as are read, and every name is an identifier and no word with a meaning
    of its own. -/
structure Formula.Spelled (f : Formula) : Prop where
  literals : ∀ n ∈ f.literals, (Text.ofNat n).length ≤ 4300
  names : ∀ x ∈ f.names, Text.isIdentifier x = true ∧ x ∉ reserved

theorem Formula.Spelled.joined {op : Operation} {l r : Formula} (h : (Formula.joined op l r).Spelled) :
    l.Spelled ∧ r.Spelled := by
  obtain ⟨hl, hr⟩ := List.forall_mem_append.mp h.literals
  obtain ⟨hl', hr'⟩ := List.forall_mem_append.mp h.names
  exact ⟨⟨hl, hl'⟩, ⟨hr, hr'⟩⟩

/-- A layout of moderate size over the integers of a store. -/
structure Layout.Sound (store : Store) (ρ : Text → Int) (w : Layout) : Prop where
  grouped : w.Grouped
  brackets : w.brackets ≤ 200
  levels : w.formula.levels ≤ 400
  spelled : w.formula.Spelled
  bound : w.formula.Bound store ρ

end LineScript.Arithmetic
