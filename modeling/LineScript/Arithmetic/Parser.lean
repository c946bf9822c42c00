import LineScript.Arithmetic.Tree

/-! Reading arithmetic: `*` and `/` bind closer than `+` and `-`, operators of one rank group to the
    left, and a sign binds closest. Whatever else an expression can be is malformed here. -/

namespace LineScript.Arithmetic

/-- An operator that joins terms. -/
def sumOperator? : Token → Option Operator
  | .plus => some .add
  | .minus => some .subtract
  | _ => none

/-- An operator that joins factors. -/
def termOperator? : Token → Option Operator
  | .star => some .multiply
  | .slash => some .divide
  | _ => none

/-- Whether no token can be read where the tokens go on. -/
def isBroken : List Token → Bool
  | .broken :: _ => true
  | _ => false

mutual

/-- A sum: terms with `+` and `-` between them. -/
def readSum : Nat → Nat → List Token → Except Halt (Tree × List Token)
  | 0, _, _ => .error .malformed
  | fuel + 1, level, ts => do
    let (first, rest) ← readTerm fuel level ts
    moreTerms fuel level first rest

/-- The terms that are joined to `left`. -/
def moreTerms : Nat → Nat → Tree → List Token → Except Halt (Tree × List Token)
  | 0, _, _, _ => .error .malformed
  | _ + 1, _, left, [] => .ok (left, [])
  | fuel + 1, level, left, t :: rest =>
    match sumOperator? t with
    | none => .ok (left, t :: rest)
    | some op => do
      let (right, rest) ← readTerm fuel level rest
      moreTerms fuel level (.binary op left right) rest

/-- A term: factors with `*` and `/` between them. -/
def readTerm : Nat → Nat → List Token → Except Halt (Tree × List Token)
  | 0, _, _ => .error .malformed
  | fuel + 1, level, ts => do
    let (first, rest) ← readFactor fuel level ts
    moreFactors fuel level first rest

/-- The factors that are joined to `left`. -/
def moreFactors : Nat → Nat → Tree → List Token → Except Halt (Tree × List Token)
  | 0, _, _, _ => .error .malformed
  | _ + 1, _, left, [] => .ok (left, [])
  | fuel + 1, level, left, t :: rest =>
    match termOperator? t with
    | none => .ok (left, t :: rest)
    | some op => do
      let (right, rest) ← readFactor fuel level rest
      moreFactors fuel level (.binary op left right) rest

/-- A factor at its level. A level is opened before the token there is looked at. -/
def readFactor : Nat → Nat → List Token → Except Halt (Tree × List Token)
  | 0, _, _ => .error .malformed
  | fuel + 1, level, ts =>
    if maxLevel < level then .error .tooNested
    else match ts with
      | .plus :: rest => do
        let (operand, rest) ← readFactor fuel (level + 1) rest
        return (.unary .plus operand, rest)
      | .minus :: rest => do
        let (operand, rest) ← readFactor fuel (level + 1) rest
        return (.unary .minus operand, rest)
      | .broken :: _ => .error .malformed
      | ts =>
        if maxLevel < level + operandDepth then .error .tooNested
        else match ts with
          | .number n :: rest => .ok (.number n, rest)
          | .name written :: rest => .ok (.name written, rest)
          | .opening :: rest =>
            if maxLevel < level + openingDepth then .error .tooNested
            else if isBroken rest then .error .malformed
            else do
              match ← readSum fuel (level + insideDepth) rest with
              | (inside, .closing :: rest) => return (inside, rest)
              | _ => .error .malformed
          | _ => .error .malformed

end

/-- The tree that a list of tokens writes, if all of it is arithmetic. -/
def Tree.ofTokens (ts : List Token) : Except Halt Tree :=
  match readSum (3 * ts.length + 3) firstLevel ts with
  | .ok (e, []) => .ok e
  | .ok _ => .error .malformed
  | .error halt => .error halt

end LineScript.Arithmetic
