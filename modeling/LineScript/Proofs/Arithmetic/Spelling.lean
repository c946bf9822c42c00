import LineScript.Arithmetic.Evaluate
import LineScript.Proofs.Except

/-! What writes arithmetic, and what has a value. The reader of arithmetic takes nothing but the tokens of a tree of
    numbers, names and operations, in the ranks of the operations. Such a tree has a value only when every name in it
    stands for a number, and no other tree has one, wherever in it the other thing stands. -/

namespace LineScript.Arithmetic

variable {store : Store} {e : Tree} {n : Number} {fuel level depth rank : Nat} {t : Token} {ts us rest : List Token}

/-! ### Numeric trees -/

/-- The name stands for a number in its normal form. -/
def Stands (store : Store) (written : Text) : Prop :=
  ∃ v, store.get? (Text.normalForm written) = some v ∧ v.numeric = true

/-- In every position of the tree there is a number, a name that stands for one, or one of the six operations. -/
def Tree.Numeric (store : Store) : Tree → Prop
  | .number _ => True
  | .name written => Stands store written
  | .unary sign operand => sign ≠ .other ∧ operand.Numeric store
  | .binary op left right => op ≠ .other ∧ left.Numeric store ∧ right.Numeric store
  | .foreign _ _ => False

theorem stands_of_lookup {written : Text} (h : lookup store written = .ok n) : Stands store written := by
  unfold lookup at h
  split at h
  · next hget => exact ⟨_, hget, rfl⟩
  · next hget => exact ⟨_, hget, rfl⟩
  · cases h

theorem Sign.apply_ok {sign : Sign} {operand : Number} (h : sign.apply operand = .ok n) : sign ≠ .other := by
  rintro rfl
  cases h

theorem Operator.apply_ok {op : Operator} {left right : Number} (h : op.apply left right = .ok n) : op ≠ .other := by
  rintro rfl
  cases h

/-- All operands are evaluated before an operation is, so a value vouches for each of them. -/
theorem numeric_of_evalTree (h : evalTree store depth e = .ok n) : e.Numeric store := by
  induction e generalizing depth n with
  | number m => trivial
  | name written =>
    rw [evalTree] at h
    exact stands_of_lookup h
  | unary sign operand ih =>
    cases depth with
    | zero => rw [evalTree.eq_def] at h; cases h
    | succ depth =>
      rw [evalTree] at h
      obtain ⟨m, hoperand, h⟩ := bind_ok_iff.mp h
      exact ⟨Sign.apply_ok h, ih hoperand⟩
  | binary op left right ihl ihr =>
    cases depth with
    | zero => rw [evalTree.eq_def] at h; cases h
    | succ depth =>
      rw [evalTree] at h
      obtain ⟨a, hleft, h⟩ := bind_ok_iff.mp h
      obtain ⟨b, hright, h⟩ := bind_ok_iff.mp h
      exact ⟨Operator.apply_ok h, ihl hleft, ihr hright⟩
  | foreign height role =>
    rw [evalTree.eq_def] at h
    cases h

theorem numeric_of_value (h : e.value store = .ok n) : e.Numeric store := by
  unfold Tree.value at h
  split at h
  · cases h
  · exact numeric_of_evalTree h

/-! ### Tokens of a tree -/

/-- The tokens write the tree as an operand of a rank: a factor of rank two, a term of rank one, a sum of rank
    zero. What binds closely enough for a rank does so for the ranks below. -/
inductive Writes : Nat → Tree → List Token → Prop where
  | number (n : Number) : Writes 2 (.number n) [.number n]
  | name (written : Text) : Writes 2 (.name written) [.name written]
  | plus {e : Tree} {ts : List Token} (h : Writes 2 e ts) : Writes 2 (.unary .plus e) (.plus :: ts)
  | minus {e : Tree} {ts : List Token} (h : Writes 2 e ts) : Writes 2 (.unary .minus e) (.minus :: ts)
  | bracketed {e : Tree} {ts : List Token} (h : Writes 0 e ts) : Writes 2 e (.opening :: (ts ++ [.closing]))
  | product {l r : Tree} {ts us : List Token} {t : Token} {op : Operator} (hop : termOperator? t = some op)
    (hl : Writes 1 l ts) (hr : Writes 2 r us) : Writes 1 (.binary op l r) (ts ++ t :: us)
  | sum {l r : Tree} {ts us : List Token} {t : Token} {op : Operator} (hop : sumOperator? t = some op)
    (hl : Writes 0 l ts) (hr : Writes 1 r us) : Writes 0 (.binary op l r) (ts ++ t :: us)
  | lower {rank : Nat} {e : Tree} {ts : List Token} (h : Writes (rank + 1) e ts) : Writes rank e ts

theorem Writes.le {k : Nat} (hk : k ≤ rank) (h : Writes rank e ts) : Writes k e ts := by
  induction hk with
  | refl => exact h
  | step _ ih => exact ih h.lower

/-- A token that arithmetic over the store can be written with. -/
def Admitted (store : Store) : Token → Prop
  | .number _ => True
  | .name written => Stands store written
  | .plus | .minus | .star | .slash | .opening | .closing => True
  | _ => False

theorem admitted_of_termOperator {op : Operator} (h : termOperator? t = some op) : Admitted store t := by
  unfold termOperator? at h
  split at h
  · trivial
  · trivial
  · cases h

theorem admitted_of_sumOperator {op : Operator} (h : sumOperator? t = some op) : Admitted store t := by
  unfold sumOperator? at h
  split at h
  · trivial
  · trivial
  · cases h

theorem Writes.admitted (h : Writes rank e ts) (he : e.Numeric store) : ∀ t ∈ ts, Admitted store t := by
  induction h with
  | number n => exact List.forall_mem_singleton.mpr trivial
  | name written => exact List.forall_mem_singleton.mpr he
  | plus h ih => exact List.forall_mem_cons.mpr ⟨trivial, ih he.2⟩
  | minus h ih => exact List.forall_mem_cons.mpr ⟨trivial, ih he.2⟩
  | bracketed h ih =>
    refine List.forall_mem_cons.mpr ⟨trivial, List.forall_mem_append.mpr ⟨ih he, ?_⟩⟩
    exact List.forall_mem_singleton.mpr trivial
  | product hop hl hr ihl ihr =>
    refine List.forall_mem_append.mpr ⟨ihl he.2.1, List.forall_mem_cons.mpr ⟨?_, ihr he.2.2⟩⟩
    exact admitted_of_termOperator hop
  | sum hop hl hr ihl ihr =>
    refine List.forall_mem_append.mpr ⟨ihl he.2.1, List.forall_mem_cons.mpr ⟨?_, ihr he.2.2⟩⟩
    exact admitted_of_sumOperator hop
  | lower h ih => exact ih he

/-! ### The reader of arithmetic -/

/-- With so much fuel the reader takes only tokens that write what it makes of them. What is read behind a first
    operand writes, with the tokens of the operand before it, what is made of both. -/
structure ReadsWritten (fuel : Nat) : Prop where
  sum : ∀ {level ts e rest}, readSum fuel level ts = .ok (e, rest) → ∃ us, ts = us ++ rest ∧ Writes 0 e us
  terms : ∀ {level left ts e rest before}, moreTerms fuel level left ts = .ok (e, rest) → Writes 0 left before →
    ∃ us, ts = us ++ rest ∧ Writes 0 e (before ++ us)
  term : ∀ {level ts e rest}, readTerm fuel level ts = .ok (e, rest) → ∃ us, ts = us ++ rest ∧ Writes 1 e us
  factors : ∀ {level left ts e rest before}, moreFactors fuel level left ts = .ok (e, rest) → Writes 1 left before →
    ∃ us, ts = us ++ rest ∧ Writes 1 e (before ++ us)
  factor : ∀ {level ts e rest}, readFactor fuel level ts = .ok (e, rest) → ∃ us, ts = us ++ rest ∧ Writes 2 e us

theorem ReadsWritten.readSum (h : ReadsWritten fuel) (hread : readSum (fuel + 1) level ts = .ok (e, rest)) :
    ∃ us, ts = us ++ rest ∧ Writes 0 e us := by
  rw [Arithmetic.readSum] at hread
  obtain ⟨⟨first, behind⟩, hfirst, hmore⟩ := bind_ok_iff.mp hread
  obtain ⟨us, rfl, hus⟩ := h.term hfirst
  obtain ⟨vs, rfl, hvs⟩ := h.terms hmore hus.lower
  exact ⟨us ++ vs, (List.append_assoc ..).symm, hvs⟩

theorem ReadsWritten.readTerm (h : ReadsWritten fuel) (hread : readTerm (fuel + 1) level ts = .ok (e, rest)) :
    ∃ us, ts = us ++ rest ∧ Writes 1 e us := by
  rw [Arithmetic.readTerm] at hread
  obtain ⟨⟨first, behind⟩, hfirst, hmore⟩ := bind_ok_iff.mp hread
  obtain ⟨us, rfl, hus⟩ := h.factor hfirst
  obtain ⟨vs, rfl, hvs⟩ := h.factors hmore hus.lower
  exact ⟨us ++ vs, (List.append_assoc ..).symm, hvs⟩

theorem ReadsWritten.moreTerms (h : ReadsWritten fuel) {left : Tree} {before : List Token}
    (hread : moreTerms (fuel + 1) level left ts = .ok (e, rest)) (hleft : Writes 0 left before) :
    ∃ us, ts = us ++ rest ∧ Writes 0 e (before ++ us) := by
  cases ts with
  | nil =>
    rw [Arithmetic.moreTerms] at hread
    cases hread
    exact ⟨[], rfl, by rwa [List.append_nil]⟩
  | cons t ts =>
    rw [Arithmetic.moreTerms] at hread
    cases hop : sumOperator? t with
    | none =>
      rw [hop] at hread
      cases hread
      exact ⟨[], rfl, by rwa [List.append_nil]⟩
    | some op =>
      rw [hop] at hread
      obtain ⟨⟨right, behind⟩, hright, hmore⟩ := bind_ok_iff.mp hread
      obtain ⟨us, rfl, hus⟩ := h.term hright
      obtain ⟨vs, rfl, hvs⟩ := h.terms hmore (.sum hop hleft hus)
      refine ⟨t :: (us ++ vs), by rw [List.cons_append, List.append_assoc], ?_⟩
      rwa [List.append_assoc, List.cons_append] at hvs

theorem ReadsWritten.moreFactors (h : ReadsWritten fuel) {left : Tree} {before : List Token}
    (hread : moreFactors (fuel + 1) level left ts = .ok (e, rest)) (hleft : Writes 1 left before) :
    ∃ us, ts = us ++ rest ∧ Writes 1 e (before ++ us) := by
  cases ts with
  | nil =>
    rw [Arithmetic.moreFactors] at hread
    cases hread
    exact ⟨[], rfl, by rwa [List.append_nil]⟩
  | cons t ts =>
    rw [Arithmetic.moreFactors] at hread
    cases hop : termOperator? t with
    | none =>
      rw [hop] at hread
      cases hread
      exact ⟨[], rfl, by rwa [List.append_nil]⟩
    | some op =>
      rw [hop] at hread
      obtain ⟨⟨right, behind⟩, hright, hmore⟩ := bind_ok_iff.mp hread
      obtain ⟨us, rfl, hus⟩ := h.factor hright
      obtain ⟨vs, rfl, hvs⟩ := h.factors hmore (.product hop hleft hus)
      refine ⟨t :: (us ++ vs), by rw [List.cons_append, List.append_assoc], ?_⟩
      rwa [List.append_assoc, List.cons_append] at hvs

theorem ReadsWritten.readFactor (h : ReadsWritten fuel) (hread : readFactor (fuel + 1) level ts = .ok (e, rest)) :
    ∃ us, ts = us ++ rest ∧ Writes 2 e us := by
  rw [readFactor.eq_def] at hread
  dsimp only at hread
  split at hread
  · cases hread
  split at hread
  · obtain ⟨⟨operand, behind⟩, hoperand, hdone⟩ := bind_ok_iff.mp hread
    cases hdone
    obtain ⟨us, rfl, hus⟩ := h.factor hoperand
    exact ⟨.plus :: us, rfl, .plus hus⟩
  · obtain ⟨⟨operand, behind⟩, hoperand, hdone⟩ := bind_ok_iff.mp hread
    cases hdone
    obtain ⟨us, rfl, hus⟩ := h.factor hoperand
    exact ⟨.minus :: us, rfl, .minus hus⟩
  · cases hread
  split at hread
  · cases hread
  split at hread
  · cases hread
    exact ⟨[_], rfl, .number _⟩
  · cases hread
    exact ⟨[_], rfl, .name _⟩
  · split at hread
    · cases hread
    split at hread
    · cases hread
    obtain ⟨⟨inside, behind⟩, hinside, hdone⟩ := bind_ok_iff.mp hread
    obtain ⟨us, rfl, hus⟩ := h.sum hinside
    split at hdone
    · next heq =>
      cases hdone
      cases heq
      exact ⟨.opening :: (us ++ [.closing]), by simp, .bracketed hus⟩
    · cases hdone
  · cases hread

theorem readsWritten (fuel : Nat) : ReadsWritten fuel := by
  induction fuel with
  | zero =>
    constructor
    · intro level ts e rest h
      rw [readSum] at h
      cases h
    · intro level left ts e rest before h
      rw [moreTerms] at h
      cases h
    · intro level ts e rest h
      rw [readTerm] at h
      cases h
    · intro level left ts e rest before h
      rw [moreFactors] at h
      cases h
    · intro level ts e rest h
      rw [readFactor] at h
      cases h
  | succ fuel ih => exact ⟨ih.readSum, ih.moreTerms, ih.readTerm, ih.moreFactors, ih.readFactor⟩

/-- The reader of arithmetic reads what is written, to its last token. -/
theorem writes_of_ofTokens (h : Tree.ofTokens ts = .ok e) : Writes 0 e ts := by
  unfold Tree.ofTokens at h
  split at h
  · next hread =>
    obtain rfl := Except.ok.inj h
    obtain ⟨us, rfl, hus⟩ := (readsWritten _).sum hread
    rwa [List.append_nil]
  · cases h
  · cases h

end LineScript.Arithmetic
