import LineScript.Arithmetic.Grammar.Formatted

/-! Reading expressions by the whole grammar, of which arithmetic is a part. What lies outside arithmetic
    has no value, but whether a text is an expression at all, and which operands come first in it, decides
    why it has none. -/

namespace LineScript.Arithmetic.Grammar

/-- How many brackets are open after each of some tokens. -/
def depthsFrom (depth : Nat) : List Token → List Nat
  | [] => []
  | t :: ts =>
    let depth :=
      if ["(", "[", "\x7b"].any fun s => t.spelling = s.toText then depth + 1
      else if [")", "]", "\x7d"].any fun s => t.spelling = s.toText then depth - 1
      else depth
    depth :: depthsFrom depth ts

/-! ### The two passes -/

/-- The level of whatever holds the whole expression. -/
def baseLevel : Nat := 1

/-- What a rule finds at the beginning of the tokens, of which some have been looked at. -/
def find (source : Source) (start : Rule) (mistakes : Bool) (seen : Nat) : Except Halt Outcome :=
  let count := source.lexemes.size
  let state : State := ⟨0, seen, baseLevel, mistakes, Array.replicate (count + 1) [], []⟩
  run source (1000000 * (count + 10) ^ 2) (.look (.rule start) state)

/-- Whether nothing follows a position, a last line end aside. -/
def finished (source : Source) (position : Nat) : Except Halt Bool :=
  match source.token? position with
  | none => .ok true
  | some .broken => .error (.spoiled none)
  | some .lineEnd => if source.isBroken (position + 1) then .error (.spoiled none) else .ok false
  | some _ => .ok false

/-- The tree that a rule makes of a source, with nothing after it if `whole`. Where it finds none,
    mistakes are looked for; without any the fault is at the last token that was looked at before, unless
    the tokens break off later. -/
def treeBy (source : Source) (start : Rule) (whole : Bool) : Except Halt Tree := do
  let outcome ← find source start false 0
  match outcome.found with
  | some ([p], position) =>
    if !whole || (← finished source position) then return p.tree
  | _ => pure ()
  let _ ← find source start true outcome.seen
  if source.lexemes.any fun l => l.token = .broken then .error (.spoiled none)
  else .error (source.fault outcome.seen .latest)

/-! ### Fields

Columns in a field's code are counted from one that is known only when they are asked for. In the first
line of the code they are further to the right by it, and a fault in a later line that is left of it
cannot be reported. -/

/-- Whether a line end comes first among what is no blank. -/
def breaksFirst (t : Text) : Bool :=
  (t.takeWhile fun c : CodePoint => c ≠ '\n' ∧ c ≠ '}').all fun c => c = ' ' || c = '\t' || c = '\x0c'

/-- The column from which those in a field are counted, given the first column of the source, the lexeme
    of the quoted text, its body, and what follows the field's opening brace. -/
def fieldColumn (text : Text) (firstColumn : Nat) (l : Lexeme) (body after : Text) : Nat :=
  let written := l.start.take (l.start.length - l.rest.length)
  let mark := (written.takeWhile fun c => !isQuote c).length
  let opening := mark + (written.length - body.length - mark) / 2
  let before := written.take (opening + (body.length - after.length) - 1)
  let inside := if breaksFirst after then 0 else Text.lastLineBytes before
  let upTo (place : Text) : Text := text.take (text.length - place.length)
  let shift := if (upTo l.rest).contains (.char '\n') then 0 else firstColumn
  if before.contains (.char '\n') then inside else shift + Text.lastLineBytes (upTo l.start) + inside

/-- What a halt in a field's code is to the text around it. -/
def fieldHalt (firstColumn : Unit → Nat) : Halt → Halt
  | .spoiled (some column) => if column < firstColumn () then .misplaced else .spoiled none
  | .malformed => .spoiled none
  | h => h

/-- A text whose quoted texts stand for what a function makes of them. -/
def sourceWith (text : Text) (joined : Array Lexeme → Nat → List Quotation → Except Flaw Tree) : Source :=
  let ls := lexemes text
  ⟨text, ls.toArray, (depthsFrom 0 (ls.map Lexeme.token)).toArray, joined ls.toArray⟩

/-- A text that is read, with formatted texts in it that nest up to a depth, and with its first column.
    The code of a field is a text of its own. -/
def sourceOf : Nat → (Unit → Nat) → Text → Source
  | 0, _, text => sourceWith text fun _ _ _ => .error .whole
  | depth + 1, firstColumn, text =>
    sourceWith text fun ls position qs =>
      let read (index : Nat) (code after : Text) : Except Halt Tree :=
        let column (_ : Unit) : Nat :=
          match ls[position + index]?, qs[index]? with
          | some l, some q => fieldColumn text (firstColumn ()) l q.body after
          | _, _ => 0
        (treeBy (sourceOf depth column ("(".toText ++ code ++ ")".toText)) .starExpressions false).mapError
          (fieldHalt column)
      Formatted.joined read none 1 0 qs

/-- How long the longest quoted text is. -/
def longestQuotation (ts : List Token) : Nat :=
  ts.foldl (fun n t => match t with
    | .quotation q => max n q.body.length
    | _ => n) 0

/-- The tree of the expression that a text is. Formatted texts inside one another grow shorter. -/
def tree (text : Text) : Except Halt Tree :=
  treeBy (sourceOf (longestQuotation (tokens text) + 1) (fun _ => 0) text) .expressions true

end LineScript.Arithmetic.Grammar
