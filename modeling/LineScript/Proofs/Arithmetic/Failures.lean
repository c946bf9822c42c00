import LineScript.Proofs.Arithmetic.Halts
import LineScript.Proofs.Decimal.Largest

/-! How arithmetic fails. It is meant to fail in one way only, with a message that quotes the text. What goes wrong
    in an expression, divisors that are zero, names without a number, constructs that are no arithmetic, and values
    that are not finite or too large, is told in that way. But an integer that is too large to meet a float is told in
    its own way, and so is what keeps a text from being read at all. -/

namespace LineScript.Arithmetic

open Decimal (floatBound)

variable {store : Store} {t : Text} {e : Tree} {a b n : Number} {fault : Fault}

/-! ### One operator -/

/-- An integer that is too large for a float meets a float. -/
inductive Clash : Number → Number → Prop where
  | left {n : Int} {x : Float} (h : floatBound ≤ n.natAbs) : Clash (.integer n) (.float x)
  | right {n : Int} {x : Float} (h : floatBound ≤ n.natAbs) : Clash (.float x) (.integer n)

/-- An operator goes to work on its operands, of which only the right one matters for that. -/
structure Operator.Works (op : Operator) (right : Number) : Prop where
  known : op ≠ .other
  divisible : op = .divide → right.isZero = false

theorem Number.toFloat_error : n.toFloat = .error fault ↔
    fault = .integerBeyondFloat ∧ ∃ i, n = .integer i ∧ floatBound ≤ i.natAbs := by
  cases n with
  | float x =>
    constructor
    · exact fun h => nomatch h
    · rintro ⟨-, i, h, -⟩
      exact nomatch h
  | integer i =>
    rw [Number.toFloat]
    cases hi : Decimal.ofInt? i with
    | none =>
      have hbound := Decimal.ofInt?_eq_none_iff.mp hi
      constructor
      · exact fun h => ⟨(Except.error.inj h).symm, i, rfl, hbound⟩
      · rintro ⟨rfl, -⟩
        rfl
    | some x =>
      constructor
      · exact fun h => nomatch h
      · rintro ⟨-, i', h, hbound⟩
        obtain rfl := Number.integer.inj h
        rw [Decimal.ofInt?_eq_none_iff.mpr hbound] at hi
        cases hi

theorem combine_error {exact : Int → Int → Int} {near : Float → Float → Float} :
    combine exact near a b = .error fault ↔ fault = .integerBeyondFloat ∧ Clash a b := by
  cases a with
  | integer m =>
    cases b with
    | integer n =>
      constructor
      · exact fun h => nomatch h
      · rintro ⟨-, h⟩
        cases h
    | float x =>
      constructor
      · intro h
        obtain hm | ⟨_, -, h⟩ := bind_error_iff.mp h
        · obtain ⟨hfault, _, hi, hbound⟩ := Number.toFloat_error.mp hm
          obtain rfl := Number.integer.inj hi
          exact ⟨hfault, .left hbound⟩
        · cases h
      · rintro ⟨rfl, h⟩
        cases h with
        | left hbound => exact bind_error_iff.mpr (.inl (Number.toFloat_error.mpr ⟨rfl, m, rfl, hbound⟩))
  | float x =>
    cases b with
    | integer n =>
      constructor
      · intro h
        obtain hx | ⟨_, -, h⟩ := bind_error_iff.mp h
        · cases hx
        · obtain hn | ⟨_, -, h⟩ := bind_error_iff.mp h
          · obtain ⟨hfault, _, hi, hbound⟩ := Number.toFloat_error.mp hn
            obtain rfl := Number.integer.inj hi
            exact ⟨hfault, .right hbound⟩
          · cases h
      · rintro ⟨rfl, h⟩
        cases h with
        | right hbound =>
          have hn := Number.toFloat_error.mpr ⟨rfl, n, rfl, hbound⟩
          exact bind_error_iff.mpr (.inr ⟨x, rfl, bind_error_iff.mpr (.inl hn)⟩)
    | float y =>
      constructor
      · exact fun h => nomatch h
      · rintro ⟨-, h⟩
        cases h

theorem Operator.apply_error {op : Operator} : op.apply a b = .error fault ↔
    fault = .failed ∧ ¬op.Works b ∨ fault = .integerBeyondFloat ∧ op.Works b ∧ Clash a b := by
  have hworks (h : op.Works b) {exact : Int → Int → Int} {near : Float → Float → Float} :
      combine exact near a b = .error fault ↔
        fault = .failed ∧ ¬op.Works b ∨ fault = .integerBeyondFloat ∧ op.Works b ∧ Clash a b := by
    rw [combine_error]
    simp only [h, not_true_eq_false, and_false, true_and, false_or]
  have hfails (h : ¬op.Works b) : (Except.error Fault.failed : Except Fault Number) = .error fault ↔
        fault = .failed ∧ ¬op.Works b ∨ fault = .integerBeyondFloat ∧ op.Works b ∧ Clash a b := by
    simp only [h, not_false_eq_true, and_true, false_and, and_false, or_false, Except.error.injEq, eq_comm]
  cases op with
  | add => exact hworks ⟨by decide, fun h => nomatch h⟩
  | subtract => exact hworks ⟨by decide, fun h => nomatch h⟩
  | multiply => exact hworks ⟨by decide, fun h => nomatch h⟩
  | divide =>
    rw [Operator.apply]
    split
    · next hzero => exact hfails fun h => by rw [h.divisible rfl] at hzero; cases hzero
    · next hzero => exact hworks ⟨by decide, fun _ => Bool.eq_false_iff.mpr hzero⟩
  | other => exact hfails fun h => h.known rfl

theorem Sign.apply_error {sign : Sign} (h : sign.apply n = .error fault) : fault = .failed := by
  cases sign with
  | plus => cases h
  | minus => cases h
  | other => exact (Except.error.inj h).symm

/-! ### Trees -/

/-- The value of a tree whose depth does not matter. -/
def Tree.result (store : Store) : Tree → Except Fault Number
  | .number n => .ok n
  | .name written => lookup store written
  | .foreign _ _ => .error .failed
  | .unary sign operand => do
    let n ← operand.result store
    sign.apply n
  | .binary op left right => do
    let a ← left.result store
    let b ← right.result store
    op.apply a b

theorem evalTree_eq_result {depth : Nat} (h : e.height ≤ depth) : evalTree store depth e = e.result store := by
  induction e generalizing depth with
  | number => cases depth <;> rfl
  | name => cases depth <;> rfl
  | foreign => cases depth <;> rfl
  | unary sign operand ih =>
    obtain ⟨depth, rfl⟩ : ∃ d, depth = d + 1 := ⟨depth - 1, by rw [Tree.height] at h; omega⟩
    rw [evalTree, Tree.result, ih (by rw [Tree.height] at h; omega)]
  | binary op left right ihl ihr =>
    obtain ⟨depth, rfl⟩ : ∃ d, depth = d + 1 := ⟨depth - 1, by rw [Tree.height] at h; omega⟩
    rw [evalTree, Tree.result, ihl (by rw [Tree.height] at h; omega), ihr (by rw [Tree.height] at h; omega)]

theorem value_eq_result (h : e.height ≤ maxDepth) : e.value store = e.result store := by
  have hheight : ¬maxHeight < e.height := Nat.not_lt.mpr (Nat.le_trans h (by decide))
  rw [Tree.value, if_neg hheight, evalTree_eq_result h]

/-- In the order of evaluation, left operands first, the first fault is an integer that is too large for the float
    it meets. -/
inductive Overflows (store : Store) : Tree → Prop where
  | operand {sign : Sign} {e : Tree} (h : Overflows store e) : Overflows store (.unary sign e)
  | left {op : Operator} {l r : Tree} (h : Overflows store l) : Overflows store (.binary op l r)
  | right {op : Operator} {l r : Tree} {a : Number} (hl : l.result store = .ok a) (h : Overflows store r) :
      Overflows store (.binary op l r)
  | here {op : Operator} {l r : Tree} {a b : Number} (hl : l.result store = .ok a) (hr : r.result store = .ok b)
      (hop : op.Works b) (h : Clash a b) : Overflows store (.binary op l r)

theorem Overflows.result (h : Overflows store e) : e.result store = .error .integerBeyondFloat := by
  induction h with
  | operand _ ih => exact bind_error_iff.mpr (.inl ih)
  | left _ ih => exact bind_error_iff.mpr (.inl ih)
  | right hl _ ih => exact bind_error_iff.mpr (.inr ⟨_, hl, bind_error_iff.mpr (.inl ih)⟩)
  | here hl hr hop h =>
    have happly := Operator.apply_error.mpr (.inr ⟨rfl, hop, h⟩)
    exact bind_error_iff.mpr (.inr ⟨_, hl, bind_error_iff.mpr (.inr ⟨_, hr, happly⟩)⟩)

/-- A tree fails in the ordinary way, unless it overflows. -/
theorem result_error (h : e.result store = .error fault) :
    fault = .failed ∨ fault = .integerBeyondFloat ∧ Overflows store e := by
  induction e with
  | number => cases h
  | name written =>
    rw [Tree.result, lookup] at h
    split at h
    · cases h
    · cases h
    · exact .inl (Except.error.inj h).symm
  | foreign => exact .inl (Except.error.inj h).symm
  | unary sign operand ih =>
    obtain hfault | ⟨a, -, happly⟩ := bind_error_iff.mp h
    · exact (ih hfault).imp_right fun ⟨hbeyond, ho⟩ => ⟨hbeyond, .operand ho⟩
    · exact .inl (Sign.apply_error happly)
  | binary op left right ihl ihr =>
    obtain hfault | ⟨a, ha, h⟩ := bind_error_iff.mp h
    · exact (ihl hfault).imp_right fun ⟨hbeyond, ho⟩ => ⟨hbeyond, .left ho⟩
    obtain hfault | ⟨b, hb, happly⟩ := bind_error_iff.mp h
    · exact (ihr hfault).imp_right fun ⟨hbeyond, ho⟩ => ⟨hbeyond, .right ha ho⟩
    · exact (Operator.apply_error.mp happly).imp And.left fun ⟨hbeyond, hop, hclash⟩ => ⟨hbeyond, .here ha hb hop hclash⟩

/-! ### Texts -/

/-- The tree that a text is read as: by arithmetic alone, or else by the whole grammar of expressions. -/
def Tree.ofText (t : Text) : Except Halt Tree :=
  match Tree.ofTokens (tokens t) with
  | .ok e => .ok e
  | .error .tooNested => .error .tooNested
  | .error _ => Grammar.tree t

/-- What it means that a text is read as no tree. -/
def Halt.toFault : Halt → Fault
  | .tooNested => .tooNested
  | .misplaced => .misplaced
  | _ => .failed

/-- A text is read as a tree by arithmetic alone, or it fails as the whole grammar tells. -/
theorem reading_cases (store : Store) (t : Text) :
    (∃ e, Tree.ofText t = .ok e ∧ valueOf store t = e.value store) ∨
      valueOf store t = .error (faultOf store (Tree.ofText t)) := by
  cases hread : Tree.ofTokens (tokens t) with
  | ok e => exact .inl ⟨e, by rw [Tree.ofText, hread], by rw [valueOf, hread]⟩
  | error halt =>
    refine .inr ?_
    rw [valueOf, Tree.ofText, hread]
    cases halt <;> rfl

theorem exists_format_of_ofText (h : Tree.ofText t = .error .misplaced) :
    ∃ q, .quotation q ∈ tokens t ∧ q.format = true := by
  unfold Tree.ofText at h
  split at h
  · cases h
  · cases h
  · exact Grammar.exists_format_of_misplaced h

theorem valueOf_of_halt {halt : Halt} (h : Tree.ofText t = .error halt) : valueOf store t = .error halt.toFault := by
  obtain ⟨e, hread, -⟩ | hvalue := reading_cases store t
  · cases h.symm.trans hread
  · rw [hvalue, h]
    cases halt <;> rfl

theorem valueOf_of_fault (h : Tree.ofText t = .ok e) (hvalue : e.value store = .error fault) :
    valueOf store t = .error fault := by
  obtain ⟨e', hread, hv⟩ | hv := reading_cases store t
  · obtain rfl := Except.ok.inj (h.symm.trans hread)
    exact hv.trans hvalue
  · rw [hv, h, faultOf, hvalue]

/-- A tree beyond arithmetic fails even if it has a value. -/
theorem valueOf_of_value (h : Tree.ofText t = .ok e) (hvalue : e.value store = .ok n) :
    valueOf store t = .ok n ∨ valueOf store t = .error .failed := by
  obtain ⟨e', hread, hv⟩ | hv := reading_cases store t
  · obtain rfl := Except.ok.inj (h.symm.trans hread)
    exact .inl (hv.trans hvalue)
  · rw [hv, h, faultOf, hvalue]
    exact .inr rfl

/-- A text can be handed to the reader of expressions. -/
structure Readable (t : Text) : Prop where
  encodable : Text.unencodable? (Text.trim t) = none
  nonnull : .char '\x00' ∉ Text.trim t

theorem evaluate_error_iff (h : Readable t) {cause : Cause} : evaluate store t = .error cause ↔
    (∃ fault, valueOf store (prepared t) = .error fault ∧ cause = fault.cause t) ∨
      ∃ n, valueOf store (prepared t) = .ok n ∧ n.toInteger? = none ∧ cause = .badArithmetic t := by
  have hnull : (Text.trim t).contains (.char '\x00') = false := by
    rw [Bool.eq_false_iff]
    exact fun hcontains => h.nonnull (List.contains_iff_mem.mp hcontains)
  rw [evaluate, h.encodable, hnull]
  cases valueOf store (prepared t) with
  | error fault => simp [eq_comm]
  | ok n => cases hn : n.toInteger? <;> simp [hn, eq_comm]

/-- How arithmetic fails otherwise than it is meant to. -/
inductive Escapes (store : Store) (t : Text) : Cause → Prop where
  /-- A surrogate cannot be handed to the reader. -/
  | surrogate {fault : Text.EncodeFault} (h : Text.unencodable? (Text.trim t) = some fault) :
      Escapes store t (.unencodable fault)
  /-- The reader does not take null characters. -/
  | null (h : Text.unencodable? (Text.trim t) = none) (hnull : .char '\x00' ∈ Text.trim t) :
      Escapes store t .nullCharacter
  /-- The reader runs out of levels. -/
  | nested (h : Readable t) (hread : Tree.ofText (prepared t) = .error .tooNested) : Escapes store t .outOfMemory
  /-- The reader cannot report what is wrong in a field of a quoted text. -/
  | field (h : Readable t) (hread : Tree.ofText (prepared t) = .error .misplaced) : Escapes store t .misplaced
  /-- An integer that is too large for a float meets one, before anything else is wrong. -/
  | overflow {e : Tree} (h : Readable t) (hread : Tree.ofText (prepared t) = .ok e) (ho : Overflows store e) :
      Escapes store t .integerBeyondFloat

theorem Escapes.evaluate {cause : Cause} (h : Escapes store t cause)
    (hnest : ∀ e, Tree.ofText (prepared t) = .ok e → e.height ≤ maxDepth) :
    evaluate store t = .error cause ∧ cause ≠ .badArithmetic t := by
  cases h with
  | surrogate h => exact ⟨by rw [Arithmetic.evaluate, h], fun h => nomatch h⟩
  | null h hnull =>
    refine ⟨?_, fun h => nomatch h⟩
    rw [Arithmetic.evaluate, h]
    exact if_pos (List.contains_iff_mem.mpr hnull)
  | nested h hread => exact ⟨(evaluate_error_iff h).mpr (.inl ⟨_, valueOf_of_halt hread, rfl⟩), fun h => nomatch h⟩
  | field h hread => exact ⟨(evaluate_error_iff h).mpr (.inl ⟨_, valueOf_of_halt hread, rfl⟩), fun h => nomatch h⟩
  | overflow h hread ho =>
    have hvalue := valueOf_of_fault hread ((value_eq_result (hnest _ hread)).trans ho.result)
    exact ⟨(evaluate_error_iff h).mpr (.inl ⟨_, hvalue, rfl⟩), fun h => nomatch h⟩

theorem escapes_of_error {cause : Cause} (h : evaluate store t = .error cause) (hcause : cause ≠ .badArithmetic t)
    (hnest : ∀ e, Tree.ofText (prepared t) = .ok e → e.height ≤ maxDepth) : Escapes store t cause := by
  cases hencodes : Text.unencodable? (Text.trim t) with
  | some fault =>
    rw [evaluate, hencodes] at h
    obtain rfl := Except.error.inj h
    exact .surrogate hencodes
  | none =>
    by_cases hnull : .char '\x00' ∈ Text.trim t
    · rw [evaluate, hencodes] at h
      obtain rfl := Except.error.inj ((if_pos (List.contains_iff_mem.mpr hnull)).symm.trans h)
      exact .null hencodes hnull
    have hreadable : Readable t := ⟨hencodes, hnull⟩
    obtain ⟨fault, hvalue, rfl⟩ | ⟨_, -, -, rfl⟩ := (evaluate_error_iff hreadable).mp h
    · cases hread : Tree.ofText (prepared t) with
      | error halt =>
        obtain rfl := Except.error.inj ((valueOf_of_halt hread).symm.trans hvalue)
        cases halt with
        | malformed => exact absurd rfl hcause
        | spoiled column => exact absurd rfl hcause
        | misplaced => exact .field hreadable hread
        | tooNested => exact .nested hreadable hread
      | ok e =>
        have hresult : e.value store = e.result store := value_eq_result (hnest e hread)
        cases he : e.value store with
        | error fault' =>
          obtain rfl := Except.error.inj ((valueOf_of_fault hread he).symm.trans hvalue)
          obtain rfl | ⟨rfl, ho⟩ := result_error (hresult.symm.trans he)
          · exact absurd rfl hcause
          · exact .overflow hreadable hread ho
        | ok n =>
          obtain hok | hfailed := valueOf_of_value hread he
          · cases hok.symm.trans hvalue
          · obtain rfl := Except.error.inj (hfailed.symm.trans hvalue)
            exact absurd rfl hcause
    · exact absurd rfl hcause

/-- Arithmetic that nests no deeper than is evaluated fails as it is meant to, unless it escapes in one of five ways,
    and in those it always does; one of them needs a quoted text with fields. Else it has an integer of 64 bits for
    its value. -/
theorem evaluate_fails_or_escapes (hnest : ∀ e, Tree.ofText (prepared t) = .ok e → e.height ≤ maxDepth) :
    (∀ cause, Escapes store t cause ↔ evaluate store t = .error cause ∧ cause ≠ .badArithmetic t) ∧
    (Escapes store t .misplaced → ∃ q, .quotation q ∈ tokens (prepared t) ∧ q.format = true) ∧
    ((∀ cause, ¬Escapes store t cause) →
      (∃ n, evaluate store t = .ok (.integer n) ∧ -(2 ^ 63) ≤ n ∧ n ≤ 2 ^ 63 - 1) ∨
      ∃ cause, evaluate store t = .error cause ∧ cause.kind = .execution ∧
        cause.message = "Cannot evaluate arithmetic expression: ".toText ++ t) := by
  refine ⟨fun cause => ⟨fun h => h.evaluate hnest, fun ⟨h, hcause⟩ => escapes_of_error h hcause hnest⟩, ?_, ?_⟩
  · intro h
    cases h with
    | field _ hread => exact exists_format_of_ofText hread
  · intro hnone
    cases h : evaluate store t with
    | ok v =>
      obtain ⟨number, n, -, hn, rfl⟩ := evaluate_value h
      exact .inl ⟨n, rfl, inRange_iff.mp (number.toInteger?_inRange hn)⟩
    | error cause =>
      obtain rfl : cause = .badArithmetic t := Decidable.byContradiction fun hcause =>
        hnone cause (escapes_of_error h hcause hnest)
      exact .inr ⟨_, rfl, rfl, rfl⟩

/-- A divisor that is a float and zero is an ordinary fault. -/
theorem evaluate_fails_or_escapes_zero_divisor :
    (∀ e, Tree.ofText (prepared "2 / 0.0".toText) = .ok e → e.height ≤ maxDepth) ∧
      ∀ cause, ¬Escapes .empty "2 / 0.0".toText cause := by
  have hread : Tree.ofText (prepared "2 / 0.0".toText) =
      .ok (.binary .divide (.number (.integer 2)) (.number (.float 0.0))) := by
    decide +kernel
  have hnest : ∀ e, Tree.ofText (prepared "2 / 0.0".toText) = .ok e → e.height ≤ maxDepth := by
    intro e he
    obtain rfl := Except.ok.inj (hread.symm.trans he)
    decide
  refine ⟨hnest, fun cause h => ?_⟩
  obtain ⟨herror, hcause⟩ := ((evaluate_fails_or_escapes hnest).1 cause).mp h
  have hvalue : evaluate .empty "2 / 0.0".toText = .error (.badArithmetic "2 / 0.0".toText) := by
    decide +kernel
  exact hcause (Except.error.inj (herror.symm.trans hvalue))

/-- One with four hundred zeros, times one as a float. -/
def hugeTimesOne : Text := "1".toText ++ List.replicate 400 (.char '0') ++ " * 1.0".toText

/-- It nests no deeper than a single operator, and it overflows. -/
theorem hugeTimesOne_escapes :
    (∃ e, Tree.ofText (prepared hugeTimesOne) = .ok e ∧ e.height = 2) ∧
      evaluate .empty hugeTimesOne = .error .integerBeyondFloat ∧
      Cause.integerBeyondFloat.message ≠ "Cannot evaluate arithmetic expression: ".toText ++ hugeTimesOne := by
  refine ⟨⟨.binary .multiply (.number (.integer (10 ^ 400))) (.number (.float 1.0)), ?_, rfl⟩, ?_, ?_⟩
  · decide +kernel
  · decide +kernel
  · decide +kernel

end LineScript.Arithmetic
