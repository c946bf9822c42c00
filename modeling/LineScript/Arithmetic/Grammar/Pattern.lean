import LineScript.Arithmetic.Tree

/-! A grammar as data: rules with alternatives, alternatives of patterns, and what is made of the trees
    that the patterns of an alternative find. -/

namespace LineScript.Arithmetic.Grammar

/-- The constructs of the language of expressions. Those whose names begin with `wrong` recognise common
    mistakes; they find nothing, but some mistakes end the reading at once. -/
inductive Rule where
  -- expressions
  | expressions
  | expression
  | quietExpression
  | yielded
  | starExpressions
  | starExpression
  | elements
  | element
  | assignment
  | namedExpression
  -- operators
  | disjunction
  | conjunction
  | inversion
  | comparison
  | comparand
  | equal
  | unequal
  | atMost
  | below
  | atLeast
  | above
  | notMember
  | member
  | notIdentical
  | identical
  | bitOr
  | bitXor
  | bitAnd
  | shift
  | sum
  | term
  | factor
  | power
  | awaited
  | primary
  -- operands
  | slices
  | slice
  | atom
  | group
  | quotations
  | list
  | tuple
  | set
  | dict
  | pairs
  | doublePair
  | pair
  -- functions
  | function
  | parameters
  | parameterList
  | slashPlain
  | slashDefault
  | starParameters
  | doubleStarParameter
  | plainParameter
  | defaultParameter
  | anyParameter
  | parameter
  | defaultValue
  -- loops
  | loops
  | loop
  | listLoop
  | setLoop
  | generator
  | dictLoop
  -- arguments
  | arguments
  | argumentList
  | keywords
  | starArgument
  | keywordOrStar
  | keywordOrDoubleStar
  -- targets
  | targets
  | listTargets
  | tupleTargets
  | target
  | plainTarget
  | atomTarget
  | owner
  | ownerAhead
  -- mistakes
  | wrongArguments
  | wrongKeyword
  | wrongStatement
  | wrongExpression
  | wrongAssignment
  | wrongLoop
  | wrongDictLoop
  | wrongParameters
  | wrongParameterStart
  | wrongStarParameters
  | wrongDoubleStarParameter
  | wrongDefault
  | wrongTarget
  | wrongGroup
  | wrongPairs
  | wrongPair
deriving DecidableEq, Repr

/-- What was found for a part of a construct: its tree, its first and its last token, and the token with
    which the first thing in it begins that cannot be bound. A mark has no tokens and only tells a place. -/
structure Part where
  tree : Tree
  first : Nat
  last : Nat
  culprit : Nat
  isMark : Bool := false
deriving DecidableEq

/-- The place of a fault: at the beginning of a token, just before its end, or at the last token that was
    looked at. -/
inductive Spot where
  | beginning (token : Nat)
  | ending (token : Nat)
  | latest
deriving DecidableEq, Repr

/-- What an alternative comes to: the parts it stands for, nothing after all, or a fault, which ends the
    reading. -/
inductive Made where
  | parts (ps : List Part)
  | nothing
  | fault (spot : Spot)

/-- An alternative that has matched: its first and its last token, its parts, and whether brackets are
    open after it. -/
structure Match where
  first : Nat
  last : Nat
  parts : List Part
  inside : Bool

/-- Makes something of an alternative that has matched. -/
abbrev Build := Match → Made

mutual

/-- What is asked of the tokens ahead. A name, a number and quoted texts give a part each, the others
    those of what they are made of. -/
inductive Pattern where
  /-- A sign or a word. -/
  | sign (spelling : Text)
  | name
  /-- A name that begins a statement of its own elsewhere. -/
  | softName
  | number
  /-- A quoted text, which gives no part. -/
  | quotation
  /-- Quoted texts side by side, which are one operand. -/
  | joined
  | rule (r : Rule)
  | group (alternatives : List Alternative)
  | optional (p : Pattern)
  /-- The parts again and again; at least once if `needed`. -/
  | repeated (needed : Bool) (parts : List Pattern)
  /-- Looks whether the pattern would match, and goes on if that is as expected. -/
  | ahead (expected : Bool) (p : Pattern)
  /-- What fails after this fails the whole rule. -/
  | cut
  /-- Marks a place. -/
  | mark

/-- An alternative. One that only looks for mistakes is left out as long as none is known of. -/
inductive Alternative where
  | mk (mistake : Bool) (parts : List Pattern) (build : Build)

end

/-! ### Short forms -/

instance : Coe String Pattern := ⟨fun s => .sign s.toText⟩

instance : Coe Rule Pattern := ⟨.rule⟩

namespace Pattern

/-- The parts at least once. -/
def some (parts : List Pattern) : Pattern := .repeated true parts

/-- The parts any number of times. -/
def many (parts : List Pattern) : Pattern := .repeated false parts

/-- What has to follow, without being read. -/
def next (p : Pattern) : Pattern := .ahead true p

/-- What must not follow. -/
def not (p : Pattern) : Pattern := .ahead false p

end Pattern

/-- An alternative that gives the parts it has found. -/
def parts (ps : List Pattern) : Alternative := .mk false ps fun m => .parts m.parts

/-- The part that an alternative makes of its parts. -/
def Match.made (make : List Tree → Tree) (culprit : Nat) (m : Match) : Made :=
  .parts [⟨make (m.parts.map Part.tree), m.first, m.last, culprit, false⟩]

/-- An alternative that makes one part of its parts. -/
def making (make : List Tree → Tree) (ps : List Pattern) : Alternative :=
  .mk false ps fun m => m.made make m.first

/-- An alternative that makes one part of its parts, and that can be bound if all of them can. -/
def gathering (make : List Tree → Tree) (ps : List Pattern) : Alternative :=
  .mk false ps fun m =>
    m.made make (((m.parts.find? fun p => p.tree.role ≠ .target).map Part.culprit).getD m.first)

/-- An alternative that looks for a mistake. -/
def mistake (r : Rule) : Alternative := .mk true [.rule r] fun _ => .nothing

/-- An alternative that is a fault at a spot. -/
def fault (spot : Match → Spot) (ps : List Pattern) : Alternative := .mk false ps fun m => .fault (spot m)

/-- An alternative that is a fault if a condition holds, and nothing otherwise. -/
def faultIf (condition : Match → Bool) (spot : Match → Spot) (ps : List Pattern) : Alternative :=
  .mk false ps fun m => if condition m then .fault (spot m) else .nothing

/-- One of some sequences of patterns. -/
def oneOf (alternatives : List (List Pattern)) : Pattern := .group (alternatives.map parts)

/-- A pattern once or more, with a sign between neighbours. -/
def separated (sign : String) (p : Pattern) : Pattern := oneOf [[p, .many [sign, p]]]

/-! ### Spots -/

/-- The place where a match begins. -/
def Match.beginning (m : Match) : Spot := .beginning m.first

/-- The beginning of the first part. -/
def Match.firstPart (m : Match) : Spot := .beginning ((m.parts.head?.map Part.first).getD m.first)

/-- The beginning of the last part. -/
def Match.lastPart (m : Match) : Spot := .beginning ((m.parts.getLast?.map Part.first).getD m.first)

/-- The end of the first part. -/
def Match.firstEnd (m : Match) : Spot := .ending ((m.parts.head?.map Part.last).getD m.first)

/-- The place that is marked. -/
def Match.marked (m : Match) : Spot := .beginning (((m.parts.find? Part.isMark).map Part.first).getD m.first)

/-- What cannot be bound in the first part. -/
def Match.culprit (m : Match) : Spot := .beginning ((m.parts.head?.map Part.culprit).getD m.first)

/-- The last place that was looked at. -/
def Match.latest (_ : Match) : Spot := .latest

end LineScript.Arithmetic.Grammar
