import LineScript.Proofs.Json.Escapes
import LineScript.Proofs.Json.Numerals

/-! A JSON value written and read back. Floats are left out, and objects have no name twice; then all of
    the value is read back, with the pairs of surrogates in its strings joined. -/

namespace LineScript.Json

/-! ### What is read back -/

mutual

/-- The value with the pairs of surrogates in its strings joined. -/
def joined : Json → Json
  | .str t => .str (Text.joinPairs t)
  | .arr items => .arr (joinedItems items)
  | .obj members => .obj (joinedMembers members)
  | v => v

/-- The items with the texts in them joined. -/
def joinedItems : List Json → List Json
  | [] => []
  | v :: rest => joined v :: joinedItems rest

/-- The members with the texts of their values joined. -/
def joinedMembers : List (Text × Json) → List (Text × Json)
  | [] => []
  | (name, v) :: rest => (name, joined v) :: joinedMembers rest

end

mutual

/-- The value holds no float and no integer of too many digits, and the names in an object differ and
    have no pairs of surrogates. -/
def Portable : Json → Prop
  | .int n => (Text.ofNat n.natAbs).length ≤ Decimal.maxDigits
  | .float _ => False
  | .arr items => PortableItems items
  | .obj members => (members.map Prod.fst).Nodup ∧ PortableMembers members
  | _ => True

/-- All items are portable. -/
def PortableItems : List Json → Prop
  | [] => True
  | v :: rest => Portable v ∧ PortableItems rest

/-- All values are portable, and no name has a pair in it. -/
def PortableMembers : List (Text × Json) → Prop
  | [] => True
  | (name, v) :: rest => Text.joinPairs name = name ∧ Portable v ∧ PortableMembers rest

end

mutual

/-- How deep arrays and objects nest in the value. -/
def nesting : Json → Nat
  | .arr items => nestingItems items + 1
  | .obj members => nestingMembers members + 1
  | _ => 0

/-- The deepest nesting of the items. -/
def nestingItems : List Json → Nat
  | [] => 0
  | v :: rest => max (nesting v) (nestingItems rest)

/-- The deepest nesting of the values. -/
def nestingMembers : List (Text × Json) → Nat
  | [] => 0
  | (_, v) :: rest => max (nesting v) (nestingMembers rest)

end

/-! ### The first character -/

theorem writeString_cons (t rest : Text) :
    writeString t ++ rest = .char '"' :: (t.flatMap writeChar ++ .char '"' :: rest) := by
  simp [writeString, String.toText, Text.ofChars]

/-- A written value begins with no gap, no closing bracket and no byte order mark. -/
theorem write_cons {v : Json} (h : v.Portable) :
    ∃ c tail, v.write = c :: tail ∧ isGap c = false ∧ c ≠ .char ']' ∧ c ≠ .char '\uFEFF' := by
  cases v with
  | null => exact ⟨.char 'n', "ull".toText, rfl, rfl, by decide, by decide⟩
  | bool b =>
    cases b with
    | false => exact ⟨.char 'f', "alse".toText, rfl, rfl, by decide, by decide⟩
    | true => exact ⟨.char 't', "rue".toText, rfl, rfl, by decide, by decide⟩
  | int n =>
    obtain ⟨d, tail, hd, hdigit | ⟨rfl, -⟩⟩ := ofInt_cons n
    · have ne (c : CodePoint) (hc : c.isDigit = false) : d ≠ c := by
        rintro rfl
        exact Bool.noConfusion (hdigit.symm.trans hc)
      refine ⟨d, tail, hd, ?_, ne _ rfl, ne _ rfl⟩
      simp [isGap, ne (.char ' ') rfl, ne (.char '\t') rfl, ne (.char '\n') rfl, ne (.char '\r') rfl]
    · exact ⟨.char '-', tail, hd, rfl, by decide, by decide⟩
  | float x => exact h.elim
  | str t =>
    exact ⟨.char '"', _, (List.append_nil _).symm.trans (writeString_cons t []), rfl, by decide, by decide⟩
  | arr items => exact ⟨.char '[', _, rfl, rfl, by decide, by decide⟩
  | obj members => exact ⟨.char '\x7b', _, rfl, rfl, by decide, by decide⟩

theorem skipGap_cons {c : CodePoint} (h : isGap c = false) (rest : Text) : skipGap (c :: rest) = c :: rest :=
  List.dropWhile_cons_of_neg (by simp [h])

theorem skipGap_write {v : Json} (h : v.Portable) (rest : Text) : skipGap (v.write ++ rest) = v.write ++ rest := by
  obtain ⟨c, tail, hc, hgap, -⟩ := write_cons h
  rw [hc]
  exact skipGap_cons hgap _

/-! ### One item, one member -/

variable {fuel depth : Nat} {v v' : Json} {name rest more : Text} {read : List (Text × Json)}

theorem put_of_not_mem (h : name ∉ read.map Prod.fst) : put name v read = read ++ [(name, v)] := by
  induction read with
  | nil => rfl
  | cons m read ih =>
    obtain ⟨hm, hread⟩ := not_or.mp fun hm => h (List.mem_cons.mpr hm)
    rw [put, if_neg (Ne.symm hm), ih hread]
    rfl

theorem readValue_string (fuel depth : Nat) (t rest : Text) :
    readValue (fuel + 1) depth (writeString t ++ rest) = .ok (.str (Text.joinPairs t), rest) := by
  rw [writeString_cons, readValue.eq_3, readChars_flatMap]
  rfl

theorem readValue_int (n : Int) (hn : (Text.ofNat n.natAbs).length ≤ Decimal.maxDigits) (h : EndsNumber rest) :
    readValue (fuel + 1) depth (Text.ofInt n ++ rest) = .ok (.int n, rest) := by
  have hword := word?_ofInt n rest
  have hread := readNumber_ofInt n hn h
  obtain ⟨d, tail, hd, hd'⟩ := ofInt_cons n
  rw [hd, List.cons_append] at hword hread ⊢
  have ne (c : CodePoint) (hc : c.isDigit = false) (hm : c ≠ .char '-') (t : Text) : d :: (tail ++ rest) ≠ c :: t := by
    rintro ⟨⟩
    rcases hd' with hdigit | ⟨rfl, -⟩
    · exact Bool.noConfusion (hdigit.symm.trans hc)
    · exact hm rfl
  rw [readValue.eq_6 _ _ _ (List.cons_ne_nil _ _) (ne _ rfl (by decide)) (ne _ rfl (by decide)) (ne _ rfl (by decide)),
    hword]
  exact hread

/-- After the last item stands the bracket that closes the array. -/
theorem readItems_last (hv : readValue fuel depth (v.write ++ .char ']' :: rest) = .ok (v', .char ']' :: rest)) :
    readItems (fuel + 1) depth (v.write ++ .char ']' :: rest) = .ok ([v'], rest) := by
  rw [readItems.eq_2, hv]
  rfl

/-- After an item before the last stands a comma. -/
theorem readItems_comma {items : List Json} (hgap : skipGap (.char ' ' :: more) = more)
    (hv : readValue fuel depth (v.write ++ .char ',' :: .char ' ' :: more) = .ok (v', .char ',' :: .char ' ' :: more))
    (hmore : readItems fuel depth more = .ok (items, rest)) :
    readItems (fuel + 1) depth (v.write ++ .char ',' :: .char ' ' :: more) = .ok (v' :: items, rest) := by
  have hcomma := skipGap_cons (c := .char ',') rfl (.char ' ' :: more)
  rw [readItems.eq_2, hv]
  simp only [bind, Except.bind, hcomma, hgap, hmore]
  rfl

/-- A member is read up to what stands after its value. -/
theorem readMembers_value (hname : Text.joinPairs name = name) (hp : v.Portable)
    (hv : readValue fuel depth (v.write ++ more) = .ok (v', more)) :
    readMembers (fuel + 1) depth read (writeMembers [(name, v)] ++ more) =
      match skipGap more with
      | .char '\x7d' :: rest => .ok (put name v' read, rest)
      | .char ',' :: rest => readMembers fuel depth (put name v' read) (skipGap rest)
      | rest => complain .comma rest := by
  have colon : skipGap (": ".toText ++ (v.write ++ more)) = .char ':' :: .char ' ' :: (v.write ++ more) := rfl
  have space : skipGap (.char ' ' :: (v.write ++ more)) = v.write ++ more := skipGap_write hp more
  rw [writeMembers, List.append_assoc, List.append_assoc, writeString_cons, readMembers.eq_2, readChars_flatMap, hname]
  simp only [bind, Except.bind, colon, space, hv]
  rfl

/-- An array that is not empty is read item by item. -/
theorem readValue_arr {items : List Json} (hp : v.Portable)
    (h : readItems fuel depth (v.write ++ more) = .ok (items, rest)) :
    readValue (fuel + 1) (depth + 1) (.char '[' :: (v.write ++ more)) = .ok (.arr items, rest) := by
  obtain ⟨c, tail, hc, hgap, hclose, -⟩ := write_cons hp
  rw [hc, List.cons_append] at h ⊢
  rw [readValue.eq_4, if_neg (Nat.succ_ne_zero depth), skipGap_cons hgap]
  split
  · next heq => exact absurd (List.cons.inj heq).1 hclose
  · simp only [Nat.add_sub_cancel, h]
    rfl

/-- An object that is not empty is read member by member. -/
theorem readValue_obj {members : List (Text × Json)}
    (h : readMembers fuel depth [] (writeString name ++ more) = .ok (members, rest)) :
    readValue (fuel + 1) (depth + 1) (.char '\x7b' :: (writeString name ++ more)) = .ok (.obj members, rest) := by
  rw [writeString_cons] at h ⊢
  rw [readValue.eq_5, if_neg (Nat.succ_ne_zero depth), skipGap_cons rfl]
  split
  · next heq => exact absurd (List.cons.inj heq).1 (by decide)
  · simp only [Nat.add_sub_cancel, h]
    rfl

/-! ### All of a value -/

theorem write_pos (h : v.Portable) : 0 < v.write.length := by
  obtain ⟨c, tail, hc, -⟩ := write_cons h
  rw [hc]
  exact Nat.succ_pos _

theorem writeItems_cons_cons (v w : Json) (items : List Json) :
    writeItems (v :: w :: items) = v.write ++ .char ',' :: .char ' ' :: writeItems (w :: items) := by
  rw [writeItems.eq_3 v (w :: items) (fun h => List.cons_ne_nil _ _ h), List.append_assoc]
  rfl

theorem writeMembers_cons_cons (m m' : Text × Json) (members : List (Text × Json)) :
    writeMembers (m :: m' :: members) = writeMembers [m] ++ .char ',' :: .char ' ' :: writeMembers (m' :: members) := by
  rw [writeMembers.eq_3 m.1 m.2 (m' :: members) (fun h => List.cons_ne_nil _ _ h), List.append_assoc (_ ++ m.2.write)]
  rfl

theorem writeItems_append (v : Json) (items : List Json) (rest : Text) :
    ∃ more, writeItems (v :: items) ++ rest = v.write ++ more := by
  cases items with
  | nil => exact ⟨rest, rfl⟩
  | cons w items => exact ⟨_, by rw [writeItems_cons_cons, List.append_assoc]⟩

theorem writeMembers_append (m : Text × Json) (members : List (Text × Json)) (rest : Text) :
    ∃ more, writeMembers (m :: members) ++ rest = writeString m.1 ++ more := by
  cases members with
  | nil => exact ⟨_, by rw [writeMembers, List.append_assoc, List.append_assoc]⟩
  | cons m' members =>
    exact ⟨_, by rw [writeMembers_cons_cons, writeMembers, List.append_assoc, List.append_assoc, List.append_assoc]⟩

theorem skipGap_writeItems {items : List Json} (hp : PortableItems (v :: items)) (rest : Text) :
    skipGap (.char ' ' :: (writeItems (v :: items) ++ rest)) = writeItems (v :: items) ++ rest := by
  obtain ⟨more, hmore⟩ := writeItems_append v items rest
  rw [hmore]
  exact skipGap_write hp.1 more

theorem skipGap_writeMembers (m : Text × Json) (members : List (Text × Json)) (rest : Text) :
    skipGap (.char ' ' :: (writeMembers (m :: members) ++ rest)) = writeMembers (m :: members) ++ rest := by
  obtain ⟨more, hmore⟩ := writeMembers_append m members rest
  rw [hmore, writeString_cons]
  exact skipGap_cons (c := .char '"') rfl _

theorem write_arr (items : List Json) (rest : Text) :
    (Json.arr items).write ++ rest = .char '[' :: (writeItems items ++ .char ']' :: rest) ∧
      (Json.arr items).write.length = (writeItems items).length + 2 := by
  simp [write, String.toText, Text.ofChars]

theorem write_obj (members : List (Text × Json)) (rest : Text) :
    (Json.obj members).write ++ rest = .char '\x7b' :: (writeMembers members ++ .char '\x7d' :: rest) ∧
      (Json.obj members).write.length = (writeMembers members).length + 2 := by
  simp [write, String.toText, Text.ofChars]

-- What is left after an item or a member decides how the list goes on, so the last one and those before it
-- are told apart. The fuel needed is at most the length of what is still to be read.
mutual

/-- A value is read back from its text, whatever stands after it that cannot belong to a number. -/
theorem readValue_write (v : Json) (fuel : Nat) {depth : Nat} {rest : Text} (hp : v.Portable)
    (hn : v.nesting ≤ depth) (hf : v.write.length ≤ fuel) (hr : EndsNumber rest) :
    readValue fuel depth (v.write ++ rest) = .ok (v.joined, rest) := by
  obtain ⟨fuel, rfl⟩ := Nat.exists_eq_add_one.mpr (Nat.lt_of_lt_of_le (write_pos hp) hf)
  cases v with
  | null => rfl
  | bool b => cases b <;> rfl
  | int n => exact readValue_int n hp hr
  | float x => exact hp.elim
  | str t => exact readValue_string fuel depth t rest
  | arr items =>
    obtain ⟨depth, rfl⟩ := Nat.exists_eq_add_one.mpr (Nat.zero_lt_of_lt hn)
    have hdepth := Nat.le_of_lt_succ hn
    cases items with
    | nil => rfl
    | cons v items =>
      obtain ⟨hw, hlen⟩ := write_arr (v :: items) rest
      have hread := readItems_write (v :: items) (List.cons_ne_nil _ _) fuel rest hp hdepth (by omega)
      obtain ⟨more, hmore⟩ := writeItems_append v items (.char ']' :: rest)
      rw [hmore] at hread hw
      rw [hw]
      exact readValue_arr hp.1 hread
  | obj members =>
    obtain ⟨depth, rfl⟩ := Nat.exists_eq_add_one.mpr (Nat.zero_lt_of_lt hn)
    have hdepth := Nat.le_of_lt_succ hn
    cases members with
    | nil => rfl
    | cons m members =>
      obtain ⟨hw, hlen⟩ := write_obj (m :: members) rest
      have hread := readMembers_write (m :: members) (List.cons_ne_nil _ _) [] fuel rest hp.2 hp.1 hdepth (by omega)
      obtain ⟨more, hmore⟩ := writeMembers_append m members (.char '\x7d' :: rest)
      rw [hmore] at hread hw
      rw [hw]
      exact readValue_obj hread
termination_by structural v

/-- The items of an array are read back up to the bracket that closes it. -/
theorem readItems_write (items : List Json) (hne : items ≠ []) (fuel : Nat) (rest : Text) {depth : Nat}
    (hp : PortableItems items) (hn : nestingItems items ≤ depth) (hf : (writeItems items).length < fuel) :
    readItems fuel depth (writeItems items ++ .char ']' :: rest) = .ok (joinedItems items, rest) := by
  obtain ⟨fuel, rfl⟩ := Nat.exists_eq_add_one.mpr (Nat.zero_lt_of_lt hf)
  have hfuel := Nat.le_of_lt_succ hf
  cases items with
  | nil => exact absurd rfl hne
  | cons v items =>
    obtain ⟨hv, hitems⟩ := hp
    obtain ⟨hnv, hnitems⟩ := Nat.max_le.mp hn
    have hpos := write_pos hv
    cases items with
    | nil => exact readItems_last (readValue_write v fuel hv hnv hfuel (endsNumber_cons rest (by decide)))
    | cons w items =>
      have hw := writeItems_cons_cons v w items
      have hlen := congrArg List.length hw
      simp only [List.length_append, List.length_cons] at hlen
      have hvalue := readValue_write v fuel hv hnv (by omega) (endsNumber_cons (c := .char ',')
        (.char ' ' :: (writeItems (w :: items) ++ .char ']' :: rest)) (by decide))
      have hrest := readItems_write (w :: items) (List.cons_ne_nil _ _) fuel rest hitems hnitems (by omega)
      rw [hw, List.append_assoc, List.cons_append, List.cons_append]
      exact readItems_comma (skipGap_writeItems hitems _) hvalue hrest
termination_by structural items

/-- The members of an object are read back up to the bracket that closes it, after those read before. -/
theorem readMembers_write (members : List (Text × Json)) (hne : members ≠ []) (read : List (Text × Json))
    (fuel : Nat) (rest : Text) {depth : Nat} (hp : PortableMembers members)
    (hread : ((read ++ members).map Prod.fst).Nodup) (hn : nestingMembers members ≤ depth)
    (hf : (writeMembers members).length < fuel) :
    readMembers fuel depth read (writeMembers members ++ .char '\x7d' :: rest) =
      .ok (read ++ joinedMembers members, rest) := by
  obtain ⟨fuel, rfl⟩ := Nat.exists_eq_add_one.mpr (Nat.zero_lt_of_lt hf)
  have hfuel := Nat.le_of_lt_succ hf
  cases members with
  | nil => exact absurd rfl hne
  | cons m members =>
    obtain ⟨hname, hv, hmembers⟩ := hp
    obtain ⟨hnv, hnmembers⟩ := Nat.max_le.mp hn
    have hone : m.2.write.length ≤ (writeMembers [m]).length := by
      rw [writeMembers, List.length_append]
      exact Nat.le_add_left _ _
    have hput : put m.1 m.2.joined read = read ++ [(m.1, m.2.joined)] := by
      rw [List.map_append, List.nodup_append] at hread
      exact put_of_not_mem fun hm => hread.2.2 _ hm _ List.mem_cons_self rfl
    cases members with
    | nil =>
      have hvalue := readValue_write m.2 fuel hv hnv (by omega) (endsNumber_cons (c := .char '\x7d') rest
        (by decide))
      have hlast : skipGap (.char '\x7d' :: rest) = .char '\x7d' :: rest := skipGap_cons rfl rest
      rw [readMembers_value hname hv hvalue, hlast]
      exact congrArg (fun read => Except.ok (read, rest)) hput
    | cons m' members =>
      have hw := writeMembers_cons_cons m m' members
      have hlen := congrArg List.length hw
      simp only [List.length_append, List.length_cons] at hlen
      have hvalue := readValue_write m.2 fuel hv hnv (by omega) (endsNumber_cons (c := .char ',')
        (.char ' ' :: (writeMembers (m' :: members) ++ .char '\x7d' :: rest)) (by decide))
      have hcomma := skipGap_cons (c := .char ',') rfl
        (.char ' ' :: (writeMembers (m' :: members) ++ .char '\x7d' :: rest))
      have hgap := skipGap_writeMembers m' members (.char '\x7d' :: rest)
      have hnew : ((read ++ [(m.1, m.2.joined)] ++ m' :: members).map Prod.fst).Nodup := by
        simpa using hread
      have hrest := readMembers_write (m' :: members) (List.cons_ne_nil _ _) _ fuel rest hmembers hnew hnmembers
        (by omega)
      rw [hw, List.append_assoc, List.cons_append, List.cons_append, readMembers_value hname hv hvalue, hcomma]
      simp only [hgap, hput, hrest, List.append_assoc]
      rfl
termination_by structural members

end

/-! ### A whole text -/

/-- A written value is read back from a text that holds nothing else but gaps after it. -/
theorem read_write {v : Json} (hp : v.Portable) (hn : v.nesting ≤ maxDepth) {gap : Text}
    (hgap : gap = [] ∨ gap = "\n".toText) : Json.read (v.write ++ gap) = .ok v.joined := by
  have hends : EndsNumber gap := by
    rcases hgap with rfl | rfl
    · exact endsNumber_nil
    · exact endsNumber_cons [] (by decide)
  have hskip : skipGap gap = [] := by
    rcases hgap with rfl | rfl <;> rfl
  have hvalue := readValue_write v (2 * (v.write ++ gap).length + 2) hp hn (by
    rw [List.length_append]
    omega) hends
  have hmark : ∀ t, v.write ++ gap ≠ .char '\uFEFF' :: t := by
    obtain ⟨c, tail, hc, -, -, hmark⟩ := write_cons hp
    rw [hc]
    exact fun t h => hmark (List.cons.inj h).1
  have hwhole : readWhole (v.write ++ gap) = .ok v.joined := by
    rw [readWhole.eq_2 _ hmark, skipGap_write hp, hvalue]
    simp only [bind, Except.bind, hskip]
    rfl
  rw [Json.read, hwhole]

end LineScript.Json
