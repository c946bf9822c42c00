import LineScript.Arithmetic.Grammar.Rules
import LineScript.Text.Utf8

/-! Reading tokens by the rules of a grammar. What is under way is kept on a stack of frames; every rule,
    group and repetition on it is a level, and the number of levels is limited. The result of a rule that
    is kept is remembered for the token at which it was looked for. A rule that begins with itself is
    tried again and again, each time with the result of the last try at its beginning, until it takes no
    more tokens than before. -/

namespace LineScript.Arithmetic.Grammar

/-- What is wrong with quoted texts side by side: something on the whole, something in one of them, or
    something that ends the reading of a part of theirs. -/
inductive Flaw where
  | whole
  | single (index : Nat)
  | halt (h : Halt)
deriving DecidableEq, Repr

/-- What is read: the lexemes, how many brackets are open after each of them, and what quoted texts side
    by side from a position on stand for. -/
structure Source where
  text : Text
  lexemes : Array Lexeme
  depths : Array Nat
  joined : Nat → List Quotation → Except Flaw Tree

/-- The parts that were found, if there is a match. -/
abbrev Found := Option (List Part)

/-- A result that is remembered, and where it ends. -/
structure Memory where
  found : Found
  position : Nat

/-- What waits for a result. Parts that were found are in reverse. -/
inductive Frame where
  /-- An alternative, with its further parts and the alternatives after it. -/
  | alternative (start : Nat) (found : List Part) (final : Bool) (rest : List Pattern) (build : Build)
      (later : List Alternative)
  /-- A group, which is a level. -/
  | level
  /-- A rule, which is a level; the truth value tells whether mistakes were looked for before it. -/
  | rule (r : Rule) (start : Nat) (mistakes : Bool)
  /-- A rule that begins with itself, with its longest result so far. -/
  | growing (r : Rule) (start : Nat) (best : Found) (reach : Nat)
  | optional (start : Nat)
  | ahead (expected : Bool) (start : Nat)
  /-- A repetition, with what its finished rounds and the one under way have found. -/
  | repeated (needed : Bool) (parts : List Pattern) (start : Nat) (found round : List Part)
      (rest : List Pattern)

/-- A state of the reading; `seen` counts the tokens that were looked at. -/
structure State where
  position : Nat
  seen : Nat
  level : Nat
  mistakes : Bool
  memory : Array (List (Rule × Memory))
  stack : List Frame

/-- What comes next: a pattern is looked for, or a result is handed to the topmost frame. -/
inductive Next where
  | look (p : Pattern) (s : State)
  | answer (found : Found) (s : State)

/-! ### The tokens ahead -/

/-- The token at a place. -/
def Source.token? (source : Source) (position : Nat) : Option Token :=
  (source.lexemes[position]?).map Lexeme.token

/-- Whether the place is one from which no token can be read. -/
def Source.isBroken (source : Source) (position : Nat) : Bool :=
  match source.token? position with
  | some .broken => true
  | _ => false

/-- Whether brackets are open after the last token. -/
def Source.inside (source : Source) (position : Nat) : Bool :=
  match source.depths[position - 1]? with
  | some depth => depth ≠ 0
  | none => false

/-- Names that begin statements of their own where a statement can stand. -/
def softNames : List Text := ["_", "case", "match"].map String.toText

/-- The quoted texts from a position on. -/
def Source.quotations (source : Source) : Nat → Nat → List Quotation
  | 0, _ => []
  | count + 1, position =>
    match source.token? position with
    | some (.quotation q) => q :: source.quotations count (position + 1)
    | _ => []

/-- The part that one token is. -/
def single (e : Tree) (position : Nat) : Part := ⟨e, position, position, position, false⟩

/-- What a pattern for one token finds in the token at a position, if it matches. A number that cannot
    be read is a fault before the first column. -/
def tokenParts (position : Nat) : Pattern → Token → Except Halt Found
  | .sign spelling, t => .ok (if t.spelling = spelling ∧ spelling ≠ [] then some [] else none)
  | .name, .name written => .ok (some [single (.name written) position])
  | .softName, .name written => .ok (if softNames.contains written then some [] else none)
  | .number, .number n => .ok (some [single (.number n) position])
  | .number, .imaginary => .ok (some [single leaf position])
  | .number, .unreadable => .error (.spoiled (some 0))
  | .quotation, .quotation _ => .ok (some [])
  | _, _ => .ok none

/-! ### Faults -/

/-- The text before a place. -/
def Source.before (source : Source) (place : Text) : Text :=
  source.text.take (source.text.length - place.length)

/-- The column of a spot, if its token does not end in the first line. -/
def Source.column? (source : Source) (seen : Nat) (spot : Spot) : Option Nat :=
  let position := match spot with
    | .beginning i => i
    | .ending i => i
    | .latest => seen - 1
  let lexeme : Lexeme := (source.lexemes[position]?).getD ⟨.lineEnd, [], []⟩
  if (source.before lexeme.rest).contains (.char '\n') then
    match spot with
    | .ending _ => some (Text.lastLineBytes (source.before lexeme.rest))
    | _ => some (Text.lastLineBytes (source.before lexeme.start) + 1)
  else none

/-- The halt for a part of the text that is spoiled. -/
def Source.fault (source : Source) (seen : Nat) (spot : Spot) : Halt := .spoiled (source.column? seen spot)

/-! ### Levels and memory -/

/-- Opens a level. -/
def State.deepen (s : State) : Except Halt State :=
  if s.level < maxLevel then .ok { s with level := s.level + 1 } else .error .tooNested

/-- The state one level further up. -/
def State.rise (s : State) : State := { s with level := s.level - 1 }

/-- The state with a frame to go on with. -/
def State.push (f : Frame) (s : State) : State := { s with stack := f :: s.stack }

/-- Looks at the token ahead. -/
def State.see (s : State) : State := { s with seen := max s.seen (s.position + 1) }

/-- The state at another place. -/
def State.goTo (position : Nat) (s : State) : State := { s with position := position }

/-- What is remembered of a rule at the place of the state. -/
def State.recall? (s : State) (r : Rule) : Option Memory := (s.memory[s.position]?).bind (·.lookup r)

/-- Puts a result in the place of an older one of the same rule. -/
def remember (r : Rule) (m : Memory) : List (Rule × Memory) → List (Rule × Memory)
  | [] => [(r, m)]
  | (r', m') :: rest => if r' = r then (r, m) :: rest else (r', m') :: remember r m rest

/-- Remembers where the reading stands as the end of a rule that began at `start`. -/
def State.keep (s : State) (r : Rule) (start : Nat) (found : Found) : State :=
  { s with memory := s.memory.modify start (remember r ⟨found, s.position⟩) }

/-! ### Alternatives -/

/-- Goes on with an alternative that has found some parts, in reverse. -/
def continueWith (source : Source) (start : Nat) (build : Build) (later : List Alternative) (s : State) :
    Bool → List Part → List Pattern → Except Halt Next
  | final, found, p :: rest =>
    match p with
    | .cut => continueWith source start build later s true found rest
    | .mark =>
      let mark : Part := { single leaf s.position with isMark := true }
      continueWith source start build later s final (mark :: found) rest
    | p => .ok (.look p (s.push (.alternative start found final rest build later)))
  | _, found, [] =>
    match build ⟨start, s.position - 1, found.reverse, source.inside s.position⟩ with
    | .parts ps => .ok (.answer (some ps) s)
    | .nothing => .ok (.answer none s)
    | .fault spot => .error (source.fault s.seen spot)

/-- Tries alternatives from where the reading stands. -/
def attempt (source : Source) (s : State) : List Alternative → Except Halt Next
  | [] => .ok (.answer none s)
  | .mk mistake ps build :: later =>
    if mistake && !s.mistakes then attempt source s later
    else continueWith source s.position build later s false [] ps

/-! ### Steps -/

/-- Tries the alternatives of a rule that begins with itself, one level further down. -/
def grow (source : Source) (r : Rule) (s : State) : Except Halt Next := do
  let s ← s.deepen
  attempt source (s.push .level) r.alternatives

/-- Looks for a rule. -/
def lookForRule (source : Source) (r : Rule) (s : State) : Except Halt Next := do
  let s ← s.deepen
  let start := s.position
  if r.looksFirst && source.isBroken start then .error (.spoiled none)
  else
    let s := if r.looksFirst then s.see else s
    match (if r.isKept || r.isGrowing then s.recall? r else none) with
    | some m => return .answer m.found (s.goTo m.position).rise
    | none =>
      if r.isGrowing then grow source r ((s.keep r start none).push (.growing r start none start))
      else
        let mistakes := s.mistakes
        let s := s.push (.rule r start mistakes)
        attempt source { s with mistakes := mistakes && r ≠ .quietExpression } r.alternatives

/-- Looks for quoted texts side by side, which are a repetition of their own. -/
def lookForJoined (source : Source) (s : State) : Except Halt Next := do
  let s := (← s.deepen).rise
  let start := s.position
  let qs := source.quotations (source.lexemes.size - start) start
  let s := (s.goTo (start + qs.length)).see
  if source.isBroken s.position then .error (.spoiled none)
  else if qs.isEmpty then return .answer none s
  else
    match source.joined start qs with
    | .ok e => return .answer (some [⟨e, start, s.position - 1, start, false⟩]) s
    | .error .whole => .error (source.fault s.seen .latest)
    | .error (.single index) => .error (source.fault s.seen (.beginning (start + index)))
    | .error (.halt h) => .error h

/-- Looks for a pattern. -/
def look (source : Source) (s : State) : Pattern → Except Halt Next
  | .rule r => lookForRule source r s
  | .joined => lookForJoined source s
  | .group alternatives => do
    let s ← s.deepen
    attempt source (s.push .level) alternatives
  | .optional p => .ok (.look p (s.push (.optional s.position)))
  | .ahead expected p => .ok (.look p (s.push (.ahead expected s.position)))
  | .repeated needed ps => do
    let s ← s.deepen
    match ps with
    | [] => return .answer (some []) s.rise
    | p :: rest => return .look p (s.push (.repeated needed ps s.position [] [] rest))
  | .cut => .ok (.answer (some []) s)
  | .mark => .ok (.answer (some []) s)
  | p =>
    let s := s.see
    match source.token? s.position with
    | some .broken => .error (.spoiled none)
    | some t => do
      match ← tokenParts s.position p t with
      | some ps => return .answer (some ps) (s.goTo (s.position + 1))
      | none => return .answer none s
    | none => .ok (.answer none s)

/-- Hands a result to a frame, which is off the stack already. -/
def answer (source : Source) (found : Found) (s : State) : Frame → Except Halt Next
  | .alternative start before final rest build later =>
    match found with
    | some es => continueWith source start build later s final (es.reverseAux before) rest
    | none =>
      if final then .ok (.answer none (s.goTo start)) else attempt source (s.goTo start) later
  | .level => .ok (.answer found s.rise)
  | .rule r start mistakes =>
    let s := { s.rise with mistakes := mistakes }
    .ok (.answer found (if r.isKept then s.keep r start found else s))
  | .growing r start best reach =>
    let position := s.position
    if found.isSome ∧ reach < position then
      grow source r (((s.keep r start found).push (.growing r start found position)).goTo start)
    else .ok (.answer best (s.goTo reach).rise)
  | .optional start =>
    match found with
    | some es => .ok (.answer (some es) s)
    | none => .ok (.answer (some []) (s.goTo start))
  | .ahead expected start => .ok (.answer (if found.isSome = expected then some [] else none) (s.goTo start))
  | .repeated needed ps start before round rest =>
    match found, rest, ps with
    | some es, p :: rest, _ =>
      .ok (.look p (s.push (.repeated needed ps start before (es.reverseAux round) rest)))
    | some es, [], p :: rest =>
      .ok (.look p (s.push (.repeated false ps s.position (es.reverseAux round ++ before) [] rest)))
    | _, _, _ => .ok (.answer (if needed then none else some before.reverse) (s.goTo start).rise)

/-- How a reading ends: the parts it has found with their end, if it has found something, and how many
    tokens were looked at. -/
structure Outcome where
  found : Option (List Part × Nat)
  seen : Nat

/-- Goes on until the stack is empty, for at most so many steps. -/
def run (source : Source) : Nat → Next → Except Halt Outcome
  | 0, _ => .error .malformed
  | fuel + 1, .look p s => do
    let next ← look source s p
    run source fuel next
  | fuel + 1, .answer found s =>
    match s.stack with
    | [] => .ok ⟨found.map fun ps => (ps, s.position), s.seen⟩
    | f :: stack => do
      let next ← answer source found { s with stack := stack } f
      run source fuel next

end LineScript.Arithmetic.Grammar
