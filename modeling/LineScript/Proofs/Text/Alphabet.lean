import LineScript.Cause
import LineScript.Decimal.Notation
import LineScript.Proofs.Json.Numerals
import LineScript.Text.Quoted

/-! Texts over a set of code points. A set that holds the printable characters of ASCII holds all that
    numbers, escapes and the fixed parts of a message are written with. -/

namespace LineScript

variable {P : CodePoint → Prop}

/-- The set holds the printable characters of ASCII. -/
def Plain (P : CodePoint → Prop) : Prop := ∀ c : Char, 0x20 ≤ c.toNat → c.toNat < 0x7F → P (.char c)

namespace Text

/-- All code points of the text are in the set. -/
def Over (P : CodePoint → Prop) (t : Text) : Prop := ∀ c ∈ t, P c

variable {t u : Text}

theorem over_nil : Over P [] := fun _ hc => absurd hc List.not_mem_nil

theorem over_cons {c : CodePoint} : Over P (c :: t) ↔ P c ∧ Over P t := List.forall_mem_cons

theorem over_append : Over P (t ++ u) ↔ Over P t ∧ Over P u := List.forall_mem_append

theorem Over.append (ht : Over P t) (hu : Over P u) : Over P (t ++ u) := over_append.mpr ⟨ht, hu⟩

theorem Over.sublist (ht : Over P t) (h : u.Sublist t) : Over P u := fun c hc => ht c (h.subset hc)

/-- A text that is written out is checked character by character, without a look at its bytes. -/
theorem over_toText (hP : Plain P) {l : List Char}
    (hl : (l.all fun c => decide (0x20 ≤ c.toNat) && decide (c.toNat < 0x7F)) = true) :
    Over P (String.ofList l).toText := by
  intro c hc
  rw [String.toText, String.toList_ofList] at hc
  obtain ⟨ch, hch, rfl⟩ := List.mem_map.mp hc
  obtain ⟨hlow, hhigh⟩ := Bool.and_eq_true_iff.mp (List.all_eq_true.mp hl ch hch)
  exact hP ch (of_decide_eq_true hlow) (of_decide_eq_true hhigh)

/-! ### Numbers -/

theorem plain_of_isDigit (hP : Plain P) {c : CodePoint} (hc : c.isDigit = true) : P c := by
  cases c with
  | surrogate k => cases hc
  | char c =>
    obtain ⟨hlow, hhigh⟩ := Char.isDigit_iff_toNat.mp hc
    exact hP c (Nat.le_trans (by decide) hlow) (Nat.lt_of_le_of_lt hhigh (by decide))

theorem over_ofNat (hP : Plain P) (n : Nat) : Over P (ofNat n) := fun _ hc =>
  plain_of_isDigit hP (isDigit_of_mem_ofNat hc)

theorem over_ofInt (hP : Plain P) (n : Int) : Over P (ofInt n) := by
  cases n with
  | ofNat n => exact over_ofNat hP n
  | negSucc n =>
    have hsign : Over P "-".toText := over_toText hP (by decide)
    exact hsign.append (over_ofNat hP (n + 1))

/-- The digits of a number in base sixteen are printable. -/
theorem over_digits (hP : Plain P) (n : Nat) : Over P (ofChars (Nat.toDigits 16 n)) := by
  have digit : ∀ d < 16, 0x20 ≤ (Nat.digitChar d).toNat ∧ (Nat.digitChar d).toNat < 0x7F := by decide
  have single {d : Nat} (hd : d < 16) : Over P (ofChars [Nat.digitChar d]) :=
    over_cons.mpr ⟨hP _ (digit d hd).1 (digit d hd).2, over_nil⟩
  induction n using Nat.base_induction 16 (by decide) with
  | single n hn =>
    rw [Nat.toDigits_of_lt_base hn]
    exact single hn
  | digit m d hd hm ih =>
    rw [← Nat.toDigits_append_toDigits (by decide) hm hd, Nat.toDigits_of_lt_base hd, ofChars, List.map_append]
    exact ih.append (single hd)

theorem over_zeros (hP : Plain P) (n : Nat) : Over P (List.replicate n (.char '0')) := by
  intro c hc
  obtain rfl := List.eq_of_mem_replicate hc
  exact hP '0' (by decide) (by decide)

theorem over_hex (hP : Plain P) (width n : Nat) : Over P (hex width n) := by
  rw [hex, ofChars, List.map_append, List.map_replicate]
  exact (over_zeros hP _).append (over_digits hP n)

theorem over_escapeCode (hP : Plain P) (c : CodePoint) : Over P (escapeCode c) := by
  have escape (letter : Char) (h : 0x20 ≤ letter.toNat) (h' : letter.toNat < 0x7F) (width : Nat) :
      Over P (.char '\\' :: .char letter :: hex width c.toNat) :=
    over_cons.mpr ⟨hP '\\' (by decide) (by decide), over_cons.mpr ⟨hP letter h h', over_hex hP width _⟩⟩
  unfold escapeCode
  dsimp only
  split
  · exact escape 'x' (by decide) (by decide) 2
  split
  · exact escape 'u' (by decide) (by decide) 4
  · exact escape 'U' (by decide) (by decide) 8

end Text

/-! ### Floats -/

namespace Decimal
open Text

theorem over_positional (hP : Plain P) {digits : Text} (hd : Over P digits) (point : Int) :
    Over P (positional digits point) := by
  unfold positional
  split
  · exact ((over_toText hP (by decide)).append (over_zeros hP _)).append hd
  split
  · exact (hd.append (over_zeros hP _)).append (over_toText hP (by decide))
  · exact ((hd.sublist (List.take_sublist _ _)).append (over_toText hP (by decide))).append
      (hd.sublist (List.drop_sublist _ _))

theorem over_scientific (hP : Plain P) (l : Layout) {digits : Text} (hd : Over P digits) (exponent : Int) :
    Over P (l.scientific digits exponent) := by
  have point : P (.char '.') := hP '.' (by decide) (by decide)
  have zero : P (.char '0') := hP '0' (by decide) (by decide)
  unfold Layout.scientific
  refine Over.append (Over.append (Over.append ?_ ?_) (over_zeros hP _)) (over_ofNat hP _)
  · split
    · exact over_nil
    · split
      · exact over_cons.mpr ⟨(over_cons.mp hd).1, over_cons.mpr ⟨point, over_cons.mpr ⟨zero, over_nil⟩⟩⟩
      · exact hd
    · obtain ⟨hfirst, hrest⟩ := over_cons.mp hd
      exact over_cons.mpr ⟨hfirst, over_cons.mpr ⟨point, hrest⟩⟩
  · split
    · exact over_toText hP (by decide)
    · exact over_toText hP (by decide)

theorem over_magnitude (hP : Plain P) (l : Layout) (s : Scaled) : Over P (l.magnitude s) := by
  unfold Layout.magnitude
  dsimp only
  split
  · exact over_toText hP (by decide)
  split
  · exact over_positional hP (over_ofNat hP _) _
  · exact over_scientific hP l (over_ofNat hP _) _

theorem over_write (hP : Plain P) (x : Float) : Over P (display.write x) := by
  unfold Layout.write
  split
  · exact over_toText hP (by decide)
  · refine Over.append ?_ (over_toText hP (by decide))
    split <;> exact over_toText hP (by decide)
  · refine Over.append ?_ (over_magnitude hP _ _)
    split <;> exact over_toText hP (by decide)

end Decimal

end LineScript
