/-! Text as the list of its code points. Lengths, positions and cuts all count code points. -/

namespace LineScript

/-- A code point: a character, or a surrogate that stands alone and is given by its distance from the
    first of them. -/
inductive CodePoint where
  | char (c : Char)
  | surrogate (k : Fin 2048)
deriving DecidableEq, Repr, Inhabited

namespace CodePoint

instance : Coe Char CodePoint := ⟨.char⟩

/-- The number of the code point. -/
def toNat : CodePoint → Nat
  | .char c => c.toNat
  | .surrogate k => 0xD800 + k.val

/-- The code point of a number. -/
def ofNat (n : Nat) : CodePoint :=
  if h : 0xD800 ≤ n ∧ n < 0xE000 then .surrogate ⟨n - 0xD800, by omega⟩ else .char (Char.ofNat n)

/-- Whether the code point is half of a pair. -/
def isSurrogate : CodePoint → Bool
  | .char _ => false
  | .surrogate _ => true

/-- Whether the code point is a decimal digit of ASCII. -/
def isDigit : CodePoint → Bool
  | .char c => c.isDigit
  | .surrogate _ => false

/-- Whether the code point is a letter of ASCII. -/
def isLetter : CodePoint → Bool
  | .char c => c.isAlpha
  | .surrogate _ => false

/-- Code points are in the order of their numbers. -/
instance : LT CodePoint := ⟨fun a b => a.toNat < b.toNat⟩

instance : LE CodePoint := ⟨fun a b => a.toNat ≤ b.toNat⟩

instance (a b : CodePoint) : Decidable (a < b) := inferInstanceAs (Decidable (a.toNat < b.toNat))

instance (a b : CodePoint) : Decidable (a ≤ b) := inferInstanceAs (Decidable (a.toNat ≤ b.toNat))

end CodePoint

/-- A text is its code points, which may be surrogates. -/
abbrev Text := List CodePoint

namespace Text

/-- The text of characters. -/
def ofChars (cs : List Char) : Text := cs.map .char

/-- Whether `c` lies in one of the ranges of code points, ends included. -/
def inRanges (ranges : List (Nat × Nat)) (c : CodePoint) : Bool :=
  ranges.any fun r => decide (r.1 ≤ c.toNat) && decide (c.toNat ≤ r.2)

/-- The texts one after the other, with `sep` between neighbours. -/
def join (sep : Text) : List Text → Text
  | [] => []
  | [t] => t
  | t :: ts => t ++ sep ++ join sep ts

/-- The decimal digits of a natural number, without leading zeros. -/
def ofNat (n : Nat) : Text := ofChars (Nat.toDigits 10 n)

/-- The decimal digits of an integer, after `-` when it is negative. -/
def ofInt : Int → Text
  | .ofNat n => ofNat n
  | .negSucc n => '-' :: ofNat (n + 1)

/-- The characters of a text, with a replacement character for each surrogate. -/
def chars (t : Text) : List Char :=
  t.map fun
    | .char c => c
    | .surrogate _ => '\uFFFD'

/-- The string of a text, with a replacement character for each surrogate. -/
def string (t : Text) : String := String.ofList (chars t)

end Text
end LineScript

/-- The text that a string holds. -/
def String.toText (s : String) : LineScript.Text := LineScript.Text.ofChars s.toList
