import LineScript.Json.Printer
import LineScript.Json.Reader
import LineScript.Proofs.Text.Surrogates

/-! Strings in JSON text. Every code point is read back from the way it is written, but for a leading
    surrogate with a trailing one after it, whose escapes are read as one character. So what is read back
    of a string is the string with its pairs joined. -/

namespace LineScript.Json

/-! ### Four digits in base sixteen -/

theorem hex_four {n : Nat} (h : n < 0x10000) :
    Text.hex 4 n = Text.ofChars [Nat.digitChar (n / 4096), Nat.digitChar (n / 256 % 16),
      Nat.digitChar (n / 16 % 16), Nat.digitChar (n % 16)] := by
  have h0 : Nat.digitChar 0 = '0' := rfl
  have digits {k : Nat} (hk : 16 ≤ k) : Nat.toDigits 16 k = Nat.toDigits 16 (k / 16) ++ [Nat.digitChar (k % 16)] :=
    Nat.toDigits_of_base_le (by decide) hk
  have digit {k : Nat} (hk : k < 16) : Nat.toDigits 16 k = [Nat.digitChar k] := Nat.toDigits_of_lt_base hk
  unfold Text.hex
  by_cases h1 : n < 16
  · have e1 : n / 4096 = 0 := by omega
    have e2 : n / 256 % 16 = 0 := by omega
    have e3 : n / 16 % 16 = 0 := by omega
    have e4 : n % 16 = n := by omega
    simp [digit h1, e1, e2, e3, e4, h0, List.replicate]
  by_cases h2 : n < 256
  · have e1 : n / 4096 = 0 := by omega
    have e2 : n / 256 % 16 = 0 := by omega
    have e3 : n / 16 % 16 = n / 16 := by omega
    have l3 : n / 16 < 16 := by omega
    simp [digits (Nat.not_lt.mp h1), digit l3, e1, e2, e3, h0, List.replicate]
  by_cases h3 : n < 4096
  · have e1 : n / 4096 = 0 := by omega
    have e2 : n / 256 % 16 = n / 16 / 16 := by omega
    have l2 : n / 16 / 16 < 16 := by omega
    have l3 : 16 ≤ n / 16 := by omega
    simp [digits (Nat.not_lt.mp h1), digits l3, digit l2, e1, e2, h0]
  · have e1 : n / 4096 = n / 16 / 16 / 16 := by omega
    have e2 : n / 256 % 16 = n / 16 / 16 % 16 := by omega
    have l1 : n / 16 / 16 / 16 < 16 := by omega
    have l2 : 16 ≤ n / 16 / 16 := by omega
    have l3 : 16 ≤ n / 16 := by omega
    simp [digits (Nat.not_lt.mp h1), digits l3, digits l2, digit l1, e1, e2]

theorem hexValue_digitChar : ∀ d < 16, hexValue? (.char (Nat.digitChar d)) = some d := by decide

theorem length_hex_four {n : Nat} (h : n < 0x10000) : (Text.hex 4 n).length = 4 := by
  rw [hex_four h]
  rfl

theorem drop_hex_four {n : Nat} (h : n < 0x10000) (rest : Text) : (Text.hex 4 n ++ rest).drop 4 = rest :=
  List.drop_left' (length_hex_four h)

theorem unit_hex_four {n : Nat} (h : n < 0x10000) (rest : Text) : unit? (Text.hex 4 n ++ rest) = some n := by
  rw [hex_four h]
  have e1 := hexValue_digitChar (n / 4096) (by omega)
  have e2 := hexValue_digitChar (n / 256 % 16) (by omega)
  have e3 := hexValue_digitChar (n / 16 % 16) (by omega)
  have e4 := hexValue_digitChar (n % 16) (by omega)
  have total : ((n / 4096 * 16 + n / 256 % 16) * 16 + n / 16 % 16) * 16 + n % 16 = n := by omega
  simp [unit?, Text.ofChars, e1, e2, e3, e4, total]

/-! ### Reading on -/

variable {opened : Nat} {more cs rest : Text} {c : CodePoint}

theorem readChars_skip (opened : Nat) (t rest : Text) :
    readChars opened t.length (t ++ rest) = readChars opened 0 rest := by
  induction t with
  | nil => rfl
  | cons c t ih => exact ih

theorem readChars_plain (hq : c ≠ .char '"') (hb : c ≠ .char '\\') (hc : 0x20 ≤ c.toNat)
    (h : readChars opened 0 more = .ok (cs, rest)) : readChars opened 0 (c :: more) = .ok (c :: cs, rest) := by
  rw [readChars.eq_7 opened c more hq hb, if_neg (Nat.not_lt.mpr hc), h]
  rfl

theorem readChars_letter {letter : CodePoint} (hl : letter ≠ .char 'u') (he : escaped? letter = some c)
    (h : readChars opened 0 more = .ok (cs, rest)) :
    readChars opened 0 (.char '\\' :: letter :: more) = .ok (c :: cs, rest) := by
  have hskip : readChars opened 1 (letter :: more) = .ok (cs, rest) := h
  rw [readChars.eq_6 opened letter more hl, he]
  simp only [hskip]
  rfl

theorem readChars_code {code : Text} (he : codeEscape (code ++ more) = .ok (c, code.length))
    (h : readChars opened 0 more = .ok (cs, rest)) :
    readChars opened 0 (.char '\\' :: .char 'u' :: (code ++ more)) = .ok (c :: cs, rest) := by
  have hskip : readChars opened (1 + code.length) (.char 'u' :: (code ++ more)) = .ok (cs, rest) := by
    rw [Nat.add_comm, readChars.eq_2, readChars_skip, h]
  rw [readChars.eq_5, he]
  simp only [bind, Except.bind, hskip]
  rfl

/-- After a leading surrogate the text does not go on with the escape of a trailing one. -/
def EndsPair (more : Text) : Prop :=
  ∀ code, more = .char '\\' :: .char 'u' :: code → 5 ≤ code.length → ∃ v, unit? code = some v ∧ isTrail v = false

theorem endsPair_of_head {d : CodePoint} (h : d ≠ .char '\\') : EndsPair (d :: more) := by
  intro code heq
  cases heq
  exact absurd rfl h

theorem endsPair_of_letter {d : CodePoint} (h : d ≠ .char 'u') : EndsPair (.char '\\' :: d :: more) := by
  intro code heq
  cases heq
  exact absurd rfl h

theorem endsPair_of_unit {u : Nat} (hu : u < 0x10000) (ht : isTrail u = false) :
    EndsPair (.char '\\' :: .char 'u' :: (Text.hex 4 u ++ more)) := by
  intro code heq _
  obtain rfl := (List.cons.inj (List.cons.inj heq).2).2
  exact ⟨u, unit_hex_four hu more, ht⟩

/-- The escape of a unit that no pair begins with, or of one that is not followed by the other half. -/
theorem codeEscape_single {u : Nat} (hu : u < 0x10000) (hmore : more ≠ [])
    (h : isLead u = true → EndsPair more) : codeEscape (Text.hex 4 u ++ more) = .ok (.ofNat u, 4) := by
  have hlen : ¬(Text.hex 4 u ++ more).length < 5 := by
    have := List.length_pos_iff.mpr hmore
    rw [List.length_append, length_hex_four hu]
    omega
  rw [codeEscape, unit_hex_four hu]
  simp only [hlen, ↓reduceIte, drop_hex_four hu]
  split
  · next code hlead =>
    split
    · rfl
    · next hcode =>
      obtain ⟨v, hv, ht⟩ := h hlead code rfl (Nat.not_lt.mp hcode)
      simp [hv, ht]
  · rfl

/-- The escapes of the two halves of a pair. -/
theorem codeEscape_pair {u v : Nat} (hu : u < 0x10000) (hv : v < 0x10000) (hlead : isLead u = true)
    (htrail : isTrail v = true) (hmore : more ≠ []) :
    codeEscape (Text.hex 4 u ++ (.char '\\' :: .char 'u' :: (Text.hex 4 v ++ more))) =
      .ok (.ofNat (0x10000 + (u - 0xD800) * 0x400 + (v - 0xDC00)), 10) := by
  have hlen : ¬(Text.hex 4 u ++ (.char '\\' :: .char 'u' :: (Text.hex 4 v ++ more))).length < 5 := by
    rw [List.length_append, length_hex_four hu, List.length_cons]
    omega
  have hlen' : ¬(Text.hex 4 v ++ more).length < 5 := by
    have := List.length_pos_iff.mpr hmore
    rw [List.length_append, length_hex_four hv]
    omega
  rw [codeEscape, unit_hex_four hu]
  simp only [hlen, ↓reduceIte, drop_hex_four hu, hlead, hlen', unit_hex_four hv, htrail]

theorem readChars_single {u : Nat} (hu : u < 0x10000) (hlead : isLead u = true → EndsPair more)
    (h : readChars opened 0 more = .ok (cs, rest)) :
    readChars opened 0 (.char '\\' :: .char 'u' :: (Text.hex 4 u ++ more)) = .ok (.ofNat u :: cs, rest) := by
  have hne : more ≠ [] := by
    rintro rfl
    cases h
  refine readChars_code ?_ h
  rw [codeEscape_single hu hne hlead, length_hex_four hu]

theorem readChars_two {u v : Nat} (hu : u < 0x10000) (hv : v < 0x10000) (hlead : isLead u = true)
    (htrail : isTrail v = true) (h : readChars opened 0 more = .ok (cs, rest)) :
    readChars opened 0 (.char '\\' :: .char 'u' :: (Text.hex 4 u ++
        (.char '\\' :: .char 'u' :: (Text.hex 4 v ++ more)))) =
      .ok (.ofNat (0x10000 + (u - 0xD800) * 0x400 + (v - 0xDC00)) :: cs, rest) := by
  have hne : more ≠ [] := by
    rintro rfl
    cases h
  have hcode := codeEscape_pair hu hv hlead htrail hne
  have hlen : (Text.hex 4 u ++ (CodePoint.char '\\' :: .char 'u' :: Text.hex 4 v)).length = 10 := by
    simp [length_hex_four hu, length_hex_four hv]
  have hboth : codeEscape (Text.hex 4 u ++ (CodePoint.char '\\' :: .char 'u' :: Text.hex 4 v) ++ more) =
      .ok (.ofNat (0x10000 + (u - 0xD800) * 0x400 + (v - 0xDC00)),
        (Text.hex 4 u ++ (CodePoint.char '\\' :: .char 'u' :: Text.hex 4 v)).length) := by
    rw [List.append_assoc, List.cons_append, List.cons_append, hcode, hlen]
  have hread := readChars_code hboth h
  simpa only [List.append_assoc, List.cons_append] using hread

/-! ### Reading back -/

theorem shortEscape_some {letter : CodePoint} (h : shortEscape? c = some letter) :
    letter ≠ .char 'u' ∧ escaped? letter = some c := by
  unfold shortEscape? at h
  split at h
  all_goals first | cases h; decide | cases h

theorem writeChar_of_le (h : 0x7F ≤ c.toNat) : writeChar c = writeCode c := by
  have hq : ¬(c = .char '"' ∨ c = .char '\\') := by
    rintro (rfl | rfl) <;> revert h <;> decide
  have hs : shortEscape? c = none := by
    unfold shortEscape?
    split
    all_goals first | rfl | (revert h; decide)
  have hp : ¬(0x20 ≤ c.toNat ∧ c.toNat < 0x7F) := by omega
  simp only [writeChar, hq, hs, hp, ↓reduceIte]

theorem writeCode_of_lt (h : c.toNat < 0x10000) :
    writeCode c = .char '\\' :: .char 'u' :: Text.hex 4 c.toNat := by
  simp only [writeCode, h, ↓reduceIte]
  rfl

theorem writeCode_of_le (h : 0x10000 ≤ c.toNat) {u v : Nat} (hu : 0xD800 + (c.toNat - 0x10000) / 0x400 = u)
    (hv : 0xDC00 + (c.toNat - 0x10000) % 0x400 = v) :
    writeCode c = .char '\\' :: .char 'u' :: (Text.hex 4 u ++ (.char '\\' :: .char 'u' :: Text.hex 4 v)) := by
  have escape : "\\u".toText = [.char '\\', .char 'u'] := rfl
  have hlt : ¬c.toNat < 0x10000 := Nat.not_lt.mpr h
  unfold writeCode
  simp only [hu, hv, hlt, ↓reduceIte, escape, List.append_assoc, List.cons_append, List.nil_append]

/-- A character beyond those of one unit is written as a pair. -/
theorem units_of_le (h : 0x10000 ≤ c.toNat) : ∃ u v, u < 0x10000 ∧ v < 0x10000 ∧ isLead u = true ∧
    isTrail u = false ∧ isTrail v = true ∧ 0x10000 + (u - 0xD800) * 0x400 + (v - 0xDC00) = c.toNat ∧
    writeCode c = .char '\\' :: .char 'u' :: (Text.hex 4 u ++ (.char '\\' :: .char 'u' :: Text.hex 4 v)) := by
  have hlt := c.toNat_lt
  refine ⟨0xD800 + (c.toNat - 0x10000) / 0x400, 0xDC00 + (c.toNat - 0x10000) % 0x400, by omega, by omega, ?_, ?_,
    ?_, by omega, writeCode_of_le h rfl rfl⟩
  · simp only [isLead, Bool.and_eq_true, decide_eq_true_eq]
    omega
  · rw [isTrail, Bool.and_eq_false_iff, decide_eq_false_iff_not, decide_eq_false_iff_not]
    omega
  · simp only [isTrail, Bool.and_eq_true, decide_eq_true_eq]
    omega

theorem readChars_writeCode (hmore : c.opensPair = true → EndsPair more)
    (h : readChars opened 0 more = .ok (cs, rest)) :
    readChars opened 0 (writeCode c ++ more) = .ok (c :: cs, rest) := by
  by_cases hastral : 0x10000 ≤ c.toNat
  · obtain ⟨u, v, hu, hv, hlead, -, htrail, hsum, hw⟩ := units_of_le hastral
    have hread := readChars_two hu hv hlead htrail h
    rw [hsum, CodePoint.ofNat_toNat] at hread
    simpa only [hw, List.append_assoc, List.cons_append] using hread
  · have hu : c.toNat < 0x10000 := Nat.not_le.mp hastral
    have hread := readChars_single hu hmore h
    rw [CodePoint.ofNat_toNat] at hread
    rw [writeCode_of_lt hu]
    exact hread

/-- A code point is read back from the way it is written, unless it is the first half of a pair. -/
theorem readChars_writeChar (hmore : c.opensPair = true → EndsPair more)
    (h : readChars opened 0 more = .ok (cs, rest)) :
    readChars opened 0 (writeChar c ++ more) = .ok (c :: cs, rest) := by
  by_cases hquote : c = .char '"' ∨ c = .char '\\'
  · simp only [writeChar, hquote, ↓reduceIte]
    rcases hquote with rfl | rfl
    · exact readChars_letter (by decide) rfl h
    · exact readChars_letter (by decide) rfl h
  · cases hshort : shortEscape? c with
    | some letter =>
      obtain ⟨hl, he⟩ := shortEscape_some hshort
      simp only [writeChar, hquote, ↓reduceIte, hshort]
      exact readChars_letter hl he h
    | none =>
      simp only [writeChar, hquote, ↓reduceIte, hshort]
      obtain ⟨hq, hb⟩ := not_or.mp hquote
      split
      · next hplain => exact readChars_plain hq hb hplain.1 h
      · exact readChars_writeCode hmore h

/-- Only the escape of a trailing surrogate completes a pair. -/
theorem endsPair_writeCode {d : CodePoint} (hd : d.closesPair = false) (more : Text) :
    EndsPair (writeCode d ++ more) := by
  by_cases hastral : 0x10000 ≤ d.toNat
  · obtain ⟨u, v, hu, -, -, hnot, -, -, hw⟩ := units_of_le hastral
    rw [hw, List.cons_append, List.cons_append, List.append_assoc]
    exact endsPair_of_unit hu hnot
  · rw [writeCode_of_lt (Nat.not_le.mp hastral)]
    exact endsPair_of_unit (Nat.not_le.mp hastral) hd

theorem endsPair_writeChar {d : CodePoint} (hd : d.closesPair = false) (more : Text) :
    EndsPair (writeChar d ++ more) := by
  by_cases hquote : d = .char '"' ∨ d = .char '\\'
  · simp only [writeChar, hquote, ↓reduceIte]
    rcases hquote with rfl | rfl <;> exact endsPair_of_letter (by decide)
  · cases hshort : shortEscape? d with
    | some letter =>
      simp only [writeChar, hquote, ↓reduceIte, hshort]
      exact endsPair_of_letter (shortEscape_some hshort).1
    | none =>
      simp only [writeChar, hquote, ↓reduceIte, hshort]
      split
      · exact endsPair_of_head (not_or.mp hquote).2
      · exact endsPair_writeCode hd more

/-- The two halves of a pair are read as one character. -/
theorem readChars_pair {d : CodePoint} (hc : c.opensPair = true) (hd : d.closesPair = true)
    (h : readChars opened 0 more = .ok (cs, rest)) :
    readChars opened 0 (writeChar c ++ (writeChar d ++ more)) = .ok (.ofPair c d :: cs, rest) := by
  have hc' : 0xD800 ≤ c.toNat ∧ c.toNat ≤ 0xDBFF := by simpa [CodePoint.opensPair] using hc
  have hd' : 0xDC00 ≤ d.toNat ∧ d.toNat ≤ 0xDFFF := by simpa [CodePoint.closesPair] using hd
  have hu : c.toNat < 0x10000 := by omega
  have hv : d.toNat < 0x10000 := by omega
  rw [writeChar_of_le (by omega : 0x7F ≤ c.toNat), writeChar_of_le (by omega : 0x7F ≤ d.toNat),
    writeCode_of_lt hu, writeCode_of_lt hv]
  exact readChars_two hu hv hc hd h

/-- What is read back of a string, up to the quote that closes it. -/
theorem readChars_flatMap (opened : Nat) (t rest : Text) :
    readChars opened 0 (t.flatMap writeChar ++ .char '"' :: rest) = .ok (Text.joinPairs t, rest) := by
  fun_induction Text.joinPairs t with
  | case1 c d more hpair ih =>
    obtain ⟨hc, hd⟩ := Bool.and_eq_true_iff.mp hpair
    rw [List.flatMap_cons, List.flatMap_cons, List.append_assoc, List.append_assoc]
    exact readChars_pair hc hd ih
  | case2 c d more hpair ih =>
    rw [List.flatMap_cons, List.append_assoc]
    refine readChars_writeChar (fun hc => ?_) ih
    have hd : d.closesPair = false := by simpa [hc] using hpair
    rw [List.flatMap_cons, List.append_assoc]
    exact endsPair_writeChar hd _
  | case3 t ht =>
    cases t with
    | nil => rfl
    | cons c tail =>
      cases tail with
      | nil =>
        rw [List.flatMap_cons, List.append_assoc]
        exact readChars_writeChar (fun _ => endsPair_of_head (by decide)) rfl
      | cons d more => exact (ht c d more rfl).elim

end LineScript.Json
