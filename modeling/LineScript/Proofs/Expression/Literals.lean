import LineScript.Proofs.Expression.Integers
import LineScript.Proofs.Expression.Interpolation

/-! Literals. A text between quotes is that text with its markers filled in, and integers and truth values are read
    back from the way they are shown. These rules come before the one for names, so that no variable has a say in
    them, whatever it is called; and what has not the form of a literal is a name if it is bound. -/

namespace LineScript

variable {store : Store} {t name : Text} {pieces : List Piece}

/-! ### Quoted texts -/

/-- A text between double quotes, as it stands. -/
def enquoted (t : Text) : Text := .char '"' :: (t ++ [.char '"'])

theorem unquoted?_enquoted (t : Text) : unquoted? (enquoted t) = some t := by
  have hlast : (enquoted t).getLast? = some (.char '"') := by
    rw [enquoted, ← List.cons_append, List.getLast?_append]
    rfl
  rw [unquoted?, if_pos ⟨rfl, hlast⟩, enquoted, List.drop_one, List.tail_cons, List.dropLast_concat]

theorem trim_enquoted (t : Text) : Text.trim (enquoted t) = enquoted t := by
  refine Text.trim_of_ends (by rintro c ⟨⟩; decide) fun c hc => ?_
  rw [enquoted, ← List.cons_append, List.getLast?_append] at hc
  obtain rfl := Option.some.inj hc
  decide

/-- What stands between the outer quotes is taken as it is, further quotes and operators included. -/
theorem evaluate_enquoted [Host] (store : Store) (t : Text) :
    evaluate store (enquoted t) = .ok (.string (interpolate store t)) := by
  rw [evaluate, trim_enquoted, unquoted?_enquoted]

theorem interpolate_pieces (h : ReadsAs t pieces) (store : Store) :
    interpolate store t = pieces.flatMap (Piece.shown store) :=
  Marker.foldr_fill h store []

/-- A text stays as it is where no marker of it names a variable. -/
theorem interpolate_eq_self (h : ReadsAs t pieces) (hfree : ∀ name, .marker name ∈ pieces → store.get? name = none) :
    interpolate store t = t := by
  rw [interpolate_pieces h]
  induction h with
  | nil => rfl
  | @marker name after pieces hname _ ih =>
    have hshown : Piece.shown store (.marker name) = Piece.written name := by
      rw [Piece.shown, hfree name List.mem_cons_self]
    rw [List.flatMap_cons, hshown, ih fun n hn => hfree n (List.mem_cons_of_mem _ hn)]
  | @plain c rest pieces hnone _ ih =>
    rw [List.flatMap_cons, ih fun n hn => hfree n (List.mem_cons_of_mem _ hn)]
    rfl

/-! ### Shown values -/

theorem Literal.writes_ofNat {sign : Text} (hsign : sign ∈ signs) (n : Nat) : Writes sign (Text.ofNat n) :=
  ⟨hsign, Text.ofNat_ne_nil n, fun _ hc => Text.isDigit_of_mem_ofNat hc⟩

theorem Literal.magnitude_ofNat (n : Nat) : magnitude (Text.ofNat n) = n := by
  rw [← natural_eq_magnitude fun _ hc => Text.isDigit_of_mem_ofNat hc, Decimal.natural_ofNat]

/-- An integer is shown as a sign and digits that denote it. -/
theorem Literal.ofInt_written (n : Int) : ∃ sign, Text.ofInt n = sign ++ Text.ofNat n.natAbs ∧
    Writes sign (Text.ofNat n.natAbs) ∧ denoted sign (Text.ofNat n.natAbs) = n := by
  cases n with
  | ofNat n =>
    refine ⟨[], rfl, writes_ofNat (by decide) n, ?_⟩
    rw [denoted, Int.natAbs_ofNat', magnitude_ofNat, if_neg (by decide), one_mul]
    rfl
  | negSucc n =>
    refine ⟨[.char '-'], rfl, writes_ofNat (by decide) (n + 1), ?_⟩
    rw [denoted, Int.natAbs_negSucc, magnitude_ofNat, if_pos rfl, neg_one_mul]
    rfl

theorem length_ofNat_le {n : Nat} (hn : n ≤ 2 ^ 63) : (Text.ofNat n).length ≤ 4300 := by
  have hlength : (Nat.toDigits 10 n).length ≤ 4300 :=
    (Nat.length_toDigits_le_iff (by decide) (by decide)).mpr (hn.trans_lt (by decide +kernel))
  rwa [Text.ofNat, Text.ofChars, List.length_map]

theorem evaluate_ofInt {n : Int} (hn : inRange n = true) : evaluate store (Text.ofInt n) = .ok (.integer n) := by
  obtain ⟨sign, hshown, hwrites, hdenoted⟩ := Literal.ofInt_written n
  have hrange := inRange_iff.mp hn
  have hshort : (Text.ofNat n.natAbs).length ≤ 4300 := length_ofNat_le (by omega)
  rw [hshown, evaluate_short hwrites hshort, hdenoted, if_pos hn]

theorem evaluate_truth (store : Store) (b : Bool) : evaluate store (Value.boolean b).display = .ok (.boolean b) := by
  cases b <;> rfl

/-! ### The form of a literal -/

namespace Literal

/-- The figures of a number: decimal digits, and a point among them or at one end. -/
inductive Figures : Text → Prop where
  | whole {digits : Text} (h : ∀ c ∈ digits, c.isDigit = true) (hne : digits ≠ []) : Figures digits
  | pointed {before after : Text} (hbefore : ∀ c ∈ before, c.isDigit = true) (hafter : ∀ c ∈ after, c.isDigit = true)
    (hne : before ≠ [] ∨ after ≠ []) : Figures (before ++ .char '.' :: after)

/-- A power of ten behind the figures. -/
inductive Power : Text → Prop where
  | none : Power []
  | some {mark : CodePoint} {sign digits : Text} (hmark : mark = .char 'e' ∨ mark = .char 'E')
    (h : Writes sign digits) : Power (mark :: (sign ++ digits))

/-- The form of a number. Without a point and a power it is that of an integer. -/
inductive IsNumber : Text → Prop where
  | intro {sign figures power : Text} (hsign : sign ∈ signs) (hfigures : Figures figures) (hpower : Power power) :
    IsNumber (sign ++ figures ++ power)

theorem splitSign_cases (t : Text) : ∃ sign ∈ signs, t = sign ++ (Decimal.splitSign t).2 := by
  unfold Decimal.splitSign
  split
  · exact ⟨[.char '-'], by decide, rfl⟩
  · exact ⟨[.char '+'], by decide, rfl⟩
  · exact ⟨[], by decide, rfl⟩

theorem writes_of_signedDigits? {negative : Bool} {digits : Text} (h : signedDigits? t = some (negative, digits)) :
    ∃ sign, t = sign ++ digits ∧ Writes sign digits := by
  obtain ⟨sign, hsign, ht⟩ := splitSign_cases t
  unfold signedDigits? at h
  dsimp only at h
  split at h
  · cases h
  · next hcond =>
    simp only [Bool.or_eq_true, List.isEmpty_iff, Bool.not_eq_true', not_or, Bool.not_eq_false, List.all_eq_true] at hcond
    obtain rfl : (Decimal.splitSign t).2 = digits := congrArg Prod.snd (Option.some.inj h)
    exact ⟨sign, ht, hsign, hcond.1, hcond.2⟩

theorem power_of_exponent? {n : Int} (h : exponent? t = some n) : Power t := by
  unfold exponent? at h
  split at h
  · exact .none
  · next mark rest =>
    split at h
    · next hmark =>
      obtain ⟨⟨negative, digits⟩, hdigits, -⟩ := Option.map_eq_some_iff.mp h
      obtain ⟨sign, rfl, hwrites⟩ := writes_of_signedDigits? hdigits
      exact .some hmark hwrites
    · cases h

/-- Only a text of the form of a number is read as a float. -/
theorem isNumber_of_float? {x : Float} (h : float? t = some x) : IsNumber t := by
  obtain ⟨sign, hsign, ht⟩ := splitSign_cases t
  have hdigits : ∀ u : Text, ∀ c ∈ u.takeWhile CodePoint.isDigit, c.isDigit = true := fun _ _ => List.mem_takeWhile_imp
  have hspan : ∀ u : Text, u.takeWhile CodePoint.isDigit ++ u.dropWhile CodePoint.isDigit = u := fun _ =>
    List.takeWhile_append_dropWhile
  have hwhole := hspan (Decimal.splitSign t).2
  unfold float? at h
  dsimp only at h
  split at h
  · -- a point ends the first digits, and more may stand behind it
    next more hpoint =>
    split at h
    · cases h
    · next hcond =>
      obtain ⟨n, hpower, -⟩ := Option.map_eq_some_iff.mp h
      rw [hpoint, ← hspan more] at hwhole
      have hne : (Decimal.splitSign t).2.takeWhile CodePoint.isDigit ≠ [] ∨ more.takeWhile CodePoint.isDigit ≠ [] := by
        simpa [or_iff_not_imp_left] using hcond
      have hnumber := IsNumber.intro hsign (.pointed (hdigits _) (hdigits more) hne) (power_of_exponent? hpower)
      rwa [List.append_assoc, List.append_assoc, List.cons_append, hwhole, ← ht] at hnumber
  · split at h
    · cases h
    · next hcond =>
      obtain ⟨n, hpower, -⟩ := Option.map_eq_some_iff.mp h
      have hne : (Decimal.splitSign t).2.takeWhile CodePoint.isDigit ≠ [] := by
        simpa using hcond
      have hnumber := IsNumber.intro hsign (.whole (hdigits _) hne) (power_of_exponent? hpower)
      rwa [List.append_assoc, hwhole, ← ht] at hnumber

theorem integer?_of_not_isNumber (h : ¬IsNumber t) : integer? t = .ok none := by
  rcases hdigits : signedDigits? t with _ | ⟨negative, digits⟩
  · rw [integer?, hdigits]
  · obtain ⟨sign, rfl, hwrites⟩ := writes_of_signedDigits? hdigits
    refine absurd ?_ h
    rw [← List.append_nil (sign ++ digits)]
    exact .intro hwrites.sign (.whole hwrites.decimal hwrites.nonempty) .none

end Literal

/-- The form of a literal: that of a number, a word for a truth value, or a quote at either end. A quote alone is both
    ends. -/
inductive IsLiteral : Text → Prop where
  | number {t : Text} (h : Literal.IsNumber t) : IsLiteral t
  | truth (b : Bool) : IsLiteral (Value.boolean b).display
  | quoted {t : Text} (hhead : t.head? = some (.char '"')) (hlast : t.getLast? = some (.char '"')) : IsLiteral t

/-- A literal of a number begins with a sign, a digit or a point. -/
theorem Literal.IsNumber.head (h : IsNumber t) :
    ∃ c, t.head? = some c ∧ (c.isDigit = true ∨ c ∈ ['.', '+', '-'].map CodePoint.char) := by
  obtain ⟨hsign, hfigures, hpower⟩ := h
  simp only [signs, List.mem_cons, List.not_mem_nil, or_false] at hsign
  rcases hsign with rfl | rfl | rfl
  · cases hfigures with
    | whole hdigits hne =>
      obtain ⟨c, rest, rfl⟩ := List.exists_cons_of_ne_nil hne
      exact ⟨c, rfl, .inl (hdigits c List.mem_cons_self)⟩
    | @pointed before after hbefore _ _ =>
      cases before with
      | nil => exact ⟨.char '.', rfl, .inr (by decide)⟩
      | cons c rest => exact ⟨c, rfl, .inl (hbefore c List.mem_cons_self)⟩
  · exact ⟨.char '+', rfl, .inr (by decide)⟩
  · exact ⟨.char '-', rfl, .inr (by decide)⟩

/-- A literal that is no truth value begins with a digit or one of a few marks. -/
theorem not_isLiteral_of_head {c : CodePoint} {rest : Text} (hdigit : c.isDigit = false)
    (hmark : c ∉ ['.', '+', '-', '"'].map CodePoint.char) (htruth : ∀ b, c :: rest ≠ (Value.boolean b).display) :
    ¬IsLiteral (c :: rest) := by
  intro h
  generalize ht : c :: rest = t at h
  cases h with
  | number h =>
    obtain ⟨first, hhead, hnumber⟩ := h.head
    rw [← ht] at hhead
    obtain rfl := Option.some.inj hhead
    rcases hnumber with hnumber | hnumber
    · rw [hdigit] at hnumber
      cases hnumber
    · exact hmark (List.mem_of_mem_dropLast hnumber)
  | truth b => exact htruth b ht
  | quoted hhead _ =>
    rw [← ht] at hhead
    obtain rfl := Option.some.inj hhead
    exact hmark (by decide)

/-- A name that is bound is read as a variable, unless it has the form of a literal. -/
theorem evaluate_bound {v : Value} (htrim : Text.trim name = name) (hname : ¬IsLiteral name)
    (h : store.get? name = some v) : evaluate store name = .ok v := by
  have hnumber : ¬Literal.IsNumber name := fun hn => hname (.number hn)
  have hfloat : Literal.float? name = none :=
    Option.eq_none_iff_forall_ne_some.mpr fun x hx => hnumber (Literal.isNumber_of_float? hx)
  have hunquoted : unquoted? name = none := if_neg fun hquotes => hname (.quoted hquotes.1 hquotes.2)
  have htrue : name ≠ "true".toText := by
    rintro rfl
    exact hname (.truth true)
  have hfalse : name ≠ "false".toText := by
    rintro rfl
    exact hname (.truth false)
  rw [evaluate, htrim, hunquoted]
  dsimp only
  rw [if_neg htrue, if_neg hfalse]
  exact evaluateBare_of_get? (Literal.integer?_of_not_isNumber hnumber) hfloat h

/-- Whatever is bound, an integer of 64 bits and a truth value are read back from the way they are shown, and a text
    between quotes is the text with its markers filled in, so that it is itself when no marker of it is bound. -/
theorem literals_read_back (store : Store) :
    (∀ n, -(2 ^ 63) ≤ n ∧ n ≤ 2 ^ 63 - 1 → evaluate store (Value.integer n).display = .ok (.integer n)) ∧
    (∀ b, evaluate store (Value.boolean b).display = .ok (.boolean b)) ∧
    ∀ t, evaluate store (enquoted t) = .ok (.string (interpolate store t)) ∧
      ∃ pieces, (∀ pieces', ReadsAs t pieces' ↔ pieces' = pieces) ∧
        ((∀ name, .marker name ∈ pieces → store.get? name = none) → evaluate store (enquoted t) = .ok (.string t)) := by
  refine ⟨fun n hn => evaluate_ofInt (inRange_iff.mpr hn), evaluate_truth store, fun t => ⟨evaluate_enquoted store t, ?_⟩⟩
  obtain ⟨pieces, h⟩ := readsAs_exists t
  refine ⟨pieces, fun pieces' => ⟨h.unique, fun he => he ▸ h⟩, fun hfree => ?_⟩
  rw [evaluate_enquoted, interpolate_eq_self h hfree]

/-- Not even names that are spelled like the least integer, a truth value and the quoted text itself change them. -/
theorem literals_read_back_shadowed :
    let store : Store := ⟨[("-9223372036854775808".toText, .boolean true), ("true".toText, .boolean false),
      (enquoted "\\(x)\" + \", \\(".toText, .integer 7)]⟩
    evaluate store "-9223372036854775808".toText = .ok (.integer (-9223372036854775808)) ∧
    evaluate store "true".toText = .ok (.boolean true) ∧
    evaluate store (enquoted "\\(x)\" + \", \\(".toText) = .ok (.string "\\(x)\" + \", \\(".toText) := by
  intro store
  obtain ⟨hinteger, htruth, hquoted⟩ := literals_read_back store
  obtain ⟨-, pieces, hreads, hitself⟩ := hquoted "\\(x)\" + \", \\(".toText
  have hleast : (Value.integer (-9223372036854775808)).display = "-9223372036854775808".toText := by decide +kernel
  refine ⟨hleast ▸ hinteger (-9223372036854775808) (by decide), htruth true, hitself fun name hmem => ?_⟩
  have hbound : ∀ b ∈ store.bindings, ¬Piece.written b.1 <:+: "\\(x)\" + \", \\(".toText := by decide
  rw [Store.get?, List.lookup_eq_none_iff]
  intro b hb
  rw [bne_iff_ne]
  rintro rfl
  exact hbound b hb (((hreads pieces).mpr rfl).written_isInfix hmem)

end LineScript
