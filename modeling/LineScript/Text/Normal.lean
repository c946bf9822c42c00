import LineScript.Text.Basic
import LineScript.Text.Normal.Combining
import LineScript.Text.Normal.Compositions
import LineScript.Text.Normal.Expansions
import LineScript.Text.Normal.Variants

/-! The form under which a name is looked up: compatibility variants are replaced by the plain
    characters, marks are put in order, and pairs are composed again (Unicode's NFKC). The tables
    cover the characters that names can hold. -/

namespace LineScript.Text

namespace Normal

/-! ### Hangul syllables -/

/-- The two or three letters of a Hangul syllable. -/
def letters? (c : Nat) : Option (List Nat) :=
  if 0xAC00 ≤ c ∧ c ≤ 0xD7A3 then
    let i := c - 0xAC00
    let pair := [0x1100 + i / 588, 0x1161 + i % 588 / 28]
    some (if i % 28 = 0 then pair else pair ++ [0x11A7 + i % 28])
  else none

/-- The syllable of a leading consonant and a vowel, or of an open syllable and a final consonant. -/
def syllable? (a b : Nat) : Option Nat :=
  if 0x1100 ≤ a ∧ a ≤ 0x1112 ∧ 0x1161 ≤ b ∧ b ≤ 0x1175 then
    some (0xAC00 + ((a - 0x1100) * 21 + (b - 0x1161)) * 28)
  else if 0xAC00 ≤ a ∧ a ≤ 0xD7A3 ∧ (a - 0xAC00) % 28 = 0 ∧ 0x11A8 ≤ b ∧ b ≤ 0x11C2 then
    some (a + (b - 0x11A7))
  else none

/-! ### Taking apart -/

/-- The plain character of a single variant. -/
def plain (c : Nat) : Nat :=
  match variantRuns.find? fun r => decide (r.1 ≤ c) && decide (c ≤ r.2.1) with
  | some r => r.2.2 + (c - r.1)
  | none => c

/-- The full expansion of a code point. No composite nests more than four deep. -/
def expand : Nat → Nat → List Nat
  | 0, c => [c]
  | depth + 1, c =>
    match letters? c with
    | some parts => parts
    | none =>
      match compositions.find? fun r => r.2.2 == c with
      | some r => expand depth r.1 ++ [r.2.1]
      | none =>
        match expansions.find? fun r => r.1 == c with
        | some r => r.2
        | none => [plain c]

/-! ### Ordering and composing -/

/-- Puts `c` before what follows, but after marks of a lower class. -/
def place (c : Nat) : List Nat → List Nat
  | [] => [c]
  | d :: rest =>
    if 0 < combiningClass d ∧ combiningClass d < combiningClass c then d :: place c rest
    else c :: d :: rest

/-- The marks behind each character in the order of their classes. -/
def reorder (cs : List Nat) : List Nat := cs.foldr place []

/-- The one character that two make together. -/
def compose? (a b : Nat) : Option Nat :=
  match syllable? a b with
  | some s => some s
  | none => (compositions.find? fun r => r.1 == a && r.2.1 == b).map fun r => r.2.2

/-- Composes `first` with the characters after it. A mark joins unless one of the marks in `held`,
    which stay behind `first` and stand latest first, has the same class or a higher one. -/
def composeFrom (first : Nat) (held : List Nat) : List Nat → List Nat
  | [] => first :: held.reverse
  | c :: rest =>
    let free := match held with
      | [] => true
      | mark :: _ => decide (combiningClass mark < combiningClass c)
    match if free then compose? first c else none with
    | some joined => composeFrom joined held rest
    | none =>
      if combiningClass c = 0 then first :: held.reverse ++ composeFrom c [] rest
      else composeFrom first (c :: held) rest

/-- Marks before the first base character stay as they are. -/
def compose : List Nat → List Nat
  | [] => []
  | c :: rest => if combiningClass c = 0 then composeFrom c [] rest else c :: compose rest

end Normal

/-- The form under which a name is looked up. ASCII text is its own form. -/
def normalForm (t : Text) : Text :=
  if t.all fun c => decide (c.toNat < 128) then t
  else (Normal.compose (Normal.reorder (t.flatMap fun c => Normal.expand 5 c.toNat))).map CodePoint.ofNat

end LineScript.Text
