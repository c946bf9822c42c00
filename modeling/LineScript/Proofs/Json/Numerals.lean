import LineScript.Json.Reader

/-! Integers in JSON text. A written integer is read back as it is, when it has no more digits than are
    read and nothing stands after it that could belong to a number. -/

namespace LineScript

/-! ### Decimal digits -/

theorem Text.chars_ofChars (cs : List Char) : Text.chars (Text.ofChars cs) = cs := by
  rw [Text.chars, Text.ofChars, List.map_map]
  exact List.map_id cs

theorem Text.isDigit_of_mem_ofNat {n : Nat} {c : CodePoint} (h : c ∈ Text.ofNat n) : c.isDigit = true := by
  obtain ⟨ch, hch, rfl⟩ := List.mem_map.mp h
  exact Nat.isDigit_of_mem_toDigits (by decide) (by decide) hch

theorem Text.ofNat_ne_nil (n : Nat) : Text.ofNat n ≠ [] := fun h =>
  Nat.toDigits_ne_nil (List.map_eq_nil_iff.mp h)

theorem Decimal.natural_ofNat (n : Nat) : Decimal.natural (Text.ofNat n) = n := by
  rw [Decimal.natural, Text.ofNat, Text.chars_ofChars]
  exact Nat.ofDigitChars_ten_toDigits

/-- No numeral but the one of zero begins with a zero. -/
theorem Text.head?_ofNat {n : Nat} (hn : 0 < n) : (Text.ofNat n).head? ≠ some (.char '0') := by
  induction n using Nat.base_induction 10 (by decide) with
  | single n hlt =>
    rw [Text.ofNat, Nat.toDigits_of_lt_base hlt]
    revert n
    decide
  | digit m d hd hm ih =>
    obtain ⟨c, cs, hc⟩ := List.exists_cons_of_ne_nil (Text.ofNat_ne_nil m)
    have happ : Text.ofNat (10 * m + d) = Text.ofNat m ++ Text.ofNat d := by
      rw [Text.ofNat, ← Nat.toDigits_append_toDigits (by decide) hm hd, Text.ofChars, List.map_append]
      rfl
    rw [hc] at ih
    rw [happ, hc]
    exact ih hm

/-- A numeral is that of zero, or it begins with another digit. -/
theorem Text.ofNat_cases (n : Nat) : Text.ofNat n = [.char '0'] ∨
    ∃ d tail, Text.ofNat n = d :: tail ∧ d.isDigit = true ∧ d ≠ .char '0' := by
  rcases Nat.eq_zero_or_pos n with rfl | hn
  · exact .inl rfl
  · obtain ⟨d, tail, hd⟩ := List.exists_cons_of_ne_nil (Text.ofNat_ne_nil n)
    have hhead := Text.head?_ofNat hn
    rw [hd] at hhead
    refine .inr ⟨d, tail, hd, Text.isDigit_of_mem_ofNat (hd ▸ List.mem_cons_self), ?_⟩
    exact fun h => hhead (congrArg some h)

namespace Json

/-! ### Reading -/

/-- The text does not go on with anything that could belong to a number. -/
def EndsNumber (rest : Text) : Prop :=
  ∀ c ∈ rest.head?, c.isDigit = false ∧ c ≠ .char '.' ∧ c ≠ .char 'e' ∧ c ≠ .char 'E'

theorem endsNumber_nil : EndsNumber [] := by
  intro c hc
  cases hc

theorem endsNumber_cons {c : CodePoint} (rest : Text)
    (h : c.isDigit = false ∧ c ≠ .char '.' ∧ c ≠ .char 'e' ∧ c ≠ .char 'E') : EndsNumber (c :: rest) := by
  rintro d ⟨⟩
  exact h

variable {rest : Text}

theorem EndsNumber.fraction (h : EndsNumber rest) : fraction? rest = none := by
  unfold fraction?
  split
  · exact absurd rfl (h _ rfl).2.1
  · rfl

theorem EndsNumber.exponent (h : EndsNumber rest) : exponent? rest = none := by
  cases rest with
  | nil => rfl
  | cons c more =>
    obtain ⟨-, -, he, hE⟩ := h c rfl
    exact if_neg (not_or.mpr ⟨he, hE⟩)

theorem EndsNumber.takeWhile (h : EndsNumber rest) {digits : Text} (hd : ∀ c ∈ digits, c.isDigit = true) :
    (digits ++ rest).takeWhile CodePoint.isDigit = digits := by
  rw [List.takeWhile_append_of_pos hd]
  cases rest with
  | nil => exact List.append_nil _
  | cons c more => rw [List.takeWhile_cons_of_neg (by simp [(h c rfl).1]), List.append_nil]

theorem EndsNumber.dropWhile (h : EndsNumber rest) {digits : Text} (hd : ∀ c ∈ digits, c.isDigit = true) :
    (digits ++ rest).dropWhile CodePoint.isDigit = rest := by
  rw [List.dropWhile_append_of_pos hd]
  cases rest with
  | nil => rfl
  | cons c more => rw [List.dropWhile_cons_of_neg (by simp [(h c rfl).1])]

theorem finishNumber_whole {whole : Text} (negative : Bool) (hw : whole.length ≤ Decimal.maxDigits)
    (h : EndsNumber rest) : finishNumber negative whole rest =
      .ok (.int (Decimal.signed negative (Decimal.natural whole)), rest) := by
  have hlt : ¬Decimal.maxDigits < whole.length := Nat.not_lt.mpr hw
  simp [finishNumber, h.fraction, h.exponent, hlt]

theorem readNumber_ofNat (n : Nat) (hw : (Text.ofNat n).length ≤ Decimal.maxDigits) (h : EndsNumber rest) :
    readNumber (Text.ofNat n ++ rest) = .ok (.int n, rest) := by
  have hread := finishNumber_whole false hw h
  have hall := fun c => Text.isDigit_of_mem_ofNat (n := n) (c := c)
  rw [Decimal.natural_ofNat] at hread
  rcases Text.ofNat_cases n with hz | ⟨d, tail, hd, hdigit, hne⟩
  · rw [hz] at hread ⊢
    exact hread
  · have htake := h.takeWhile hall
    have hdrop := h.dropWhile hall
    have hsign : d ≠ .char '-' := by
      rintro rfl
      cases hdigit
    rw [hd, List.cons_append] at htake hdrop ⊢
    rw [readNumber.eq_5 d (tail ++ rest) hne (fun _ h => hsign (List.cons.inj h).1), if_pos hdigit, htake, hdrop, ← hd]
    exact hread

theorem readNumber_neg (n : Nat) (hw : (Text.ofNat n).length ≤ Decimal.maxDigits) (h : EndsNumber rest) :
    readNumber (.char '-' :: (Text.ofNat n ++ rest)) = .ok (.int (-n), rest) := by
  have hread := finishNumber_whole true hw h
  have hall := fun c => Text.isDigit_of_mem_ofNat (n := n) (c := c)
  rw [Decimal.natural_ofNat] at hread
  rcases Text.ofNat_cases n with hz | ⟨d, tail, hd, hdigit, hne⟩
  · rw [hz] at hread ⊢
    exact hread
  · have htake := h.takeWhile hall
    have hdrop := h.dropWhile hall
    rw [hd, List.cons_append] at htake hdrop ⊢
    rw [readNumber.eq_2 d (tail ++ rest) hne, if_pos hdigit, htake, hdrop, ← hd]
    exact hread

/-- An integer is read back from its digits. -/
theorem readNumber_ofInt (n : Int) (hw : (Text.ofNat n.natAbs).length ≤ Decimal.maxDigits)
    (h : EndsNumber rest) : readNumber (Text.ofInt n ++ rest) = .ok (.int n, rest) := by
  cases n with
  | ofNat n => exact readNumber_ofNat n hw h
  | negSucc n => exact readNumber_neg (n + 1) hw h

/-- What an integer is written with begins no word and nothing in brackets or quotes. -/
theorem ofInt_cons (n : Int) : ∃ d tail, Text.ofInt n = d :: tail ∧
    (d.isDigit = true ∨ d = .char '-' ∧ ∃ e more, tail = e :: more ∧ e.isDigit = true) := by
  have first (m : Nat) : ∃ d tail, Text.ofNat m = d :: tail ∧ d.isDigit = true := by
    obtain ⟨d, tail, hd⟩ := List.exists_cons_of_ne_nil (Text.ofNat_ne_nil m)
    exact ⟨d, tail, hd, Text.isDigit_of_mem_ofNat (hd ▸ List.mem_cons_self)⟩
  cases n with
  | ofNat n =>
    obtain ⟨d, tail, hd, hdigit⟩ := first n
    exact ⟨d, tail, hd, .inl hdigit⟩
  | negSucc n => exact ⟨.char '-', Text.ofNat (n + 1), rfl, .inr ⟨rfl, first (n + 1)⟩⟩

/-- A word is the start of a text only with its own first characters. -/
theorem word?_cons {d : CodePoint} (hd : d.isDigit = true) (rest : Text) :
    word? (d :: rest) = none ∧ word? (.char '-' :: d :: rest) = none := by
  have ne (c : CodePoint) (hc : c.isDigit = false) : c ≠ d := by
    rintro rfl
    exact Bool.noConfusion (hd.symm.trans hc)
  have n := ne (.char 'n') rfl
  have t := ne (.char 't') rfl
  have f := ne (.char 'f') rfl
  have N := ne (.char 'N') rfl
  have I := ne (.char 'I') rfl
  have minus := ne (.char '-') rfl
  constructor <;> simp [word?, String.toText, Text.ofChars, n, t, f, N, I, minus]

theorem word?_ofInt (n : Int) (rest : Text) : word? (Text.ofInt n ++ rest) = none := by
  obtain ⟨d, tail, hd, hdigit | ⟨rfl, e, more, rfl, hdigit⟩⟩ := ofInt_cons n
  · rw [hd]
    exact (word?_cons hdigit _).1
  · rw [hd]
    exact (word?_cons hdigit _).2

end Json
end LineScript
