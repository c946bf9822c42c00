import LineScript.Proofs.Arithmetic.Operands
import LineScript.Proofs.Arithmetic.Shown
import LineScript.Proofs.Program.Variables

/-! Only arithmetic has a value. A text that evaluates shows nothing but numbers, names, marks and brackets, and its
    names stand for numbers. That is so although texts are read by the far larger grammar of expressions: a tree that
    this makes has a value only if it is a tree of arithmetic, which leaves no room for anything else. -/

namespace LineScript.Arithmetic

namespace Grammar

variable {t text : Text} {e : Tree} {store : Store}

/-! ### Sources -/

theorem foreign_of_joined {read : Nat → Formatted.FieldReader} {bytes : Option Bool} {highest index : Nat}
    {qs : List Quotation} (h : Formatted.joined read bytes highest index qs = .ok e) :
    ∃ height, e = .foreign height .plain := by
  induction qs generalizing bytes highest index with
  | nil =>
    rw [Formatted.joined] at h
    exact ⟨highest, (Except.ok.inj h).symm⟩
  | cons q qs ih =>
    rw [Formatted.joined] at h
    split at h
    · cases h
    split at h
    · cases h
    split at h
    · obtain ⟨height, -, h⟩ := bind_ok_iff.mp h
      exact ih h
    · exact ih h

theorem ordinary_sourceWith {joined : Array Lexeme → Nat → List Quotation → Except Flaw Tree}
    (h : ∀ {ls start qs e}, joined ls start qs = .ok e → ∃ height, e = .foreign height .plain) :
    Ordinary (sourceWith text joined) (tokens text) where
  token i := by
    simp [sourceWith, Source.token?, tokens]
  proper _ := proper_of_mem_tokens
  foreign := h

theorem ordinary_sourceOf (depth : Nat) (firstColumn : Unit → Nat) (text : Text) :
    Ordinary (sourceOf depth firstColumn text) (tokens text) := by
  cases depth with
  | zero => exact ordinary_sourceWith fun h => nomatch h
  | succ depth => exact ordinary_sourceWith foreign_of_joined

/-! ### Trees -/

theorem token?_of_finished {source : Source} {position : Nat} (h : finished source position = .ok true) :
    source.token? position = none := by
  unfold finished at h
  split at h
  · assumption
  · cases h
  · split at h <;> cases h
  · cases h

/-- A tree that is made of a whole source is one part, with no token behind it. -/
theorem found_of_treeBy {source : Source} {root : Rule} (h : treeBy source root true = .ok e) :
    ∃ outcome p position, find source root false 0 = .ok outcome ∧ outcome.found = some ([p], position) ∧
      source.token? position = none ∧ p.tree = e := by
  obtain ⟨outcome, hfind, h⟩ := bind_ok_iff.mp h
  -- the second reading only tells what is wrong
  have hwrong {halted : Except Halt Outcome} {broken : Bool} {halt halt' : Halt} :
      (halted >>= fun _ => if broken then .error halt else .error halt') ≠ .ok e := by
    intro h
    obtain ⟨_, -, h⟩ := bind_ok_iff.mp h
    split at h <;> cases h
  dsimp only at h
  split at h
  · next p position hfound =>
    obtain ⟨complete, hcomplete, h⟩ := bind_ok_iff.mp h
    cases complete with
    | true => exact ⟨outcome, p, position, hfind, hfound, token?_of_finished hcomplete, Except.ok.inj h⟩
    | false => exact absurd h hwrong
  · exact absurd h hwrong

/-- All tokens of an expression in which everything is numeric write it. -/
theorem writes_of_tree (h : tree t = .ok e) (hnumeric : e.Numeric store) : Writes 0 e (tokens t) := by
  obtain ⟨outcome, p, position, hfind, hfound, hend, rfl⟩ := found_of_treeBy h
  have hsource := ordinary_sourceOf (longestQuotation (tokens t) + 1) (fun _ => 0) t
  have hoperand : Operand _ store 0 0 position [p] := says_of_find (closed_operands hsource) hfind hfound
  obtain ⟨q, hq, h⟩ := hoperand
  obtain rfl := (List.cons.inj hq).1
  obtain ⟨ts, hstretch, hwrites⟩ := h hnumeric
  rwa [hstretch.whole hsource hend] at hwrites

end Grammar

/-! ### Values -/

variable {store : Store} {t : Text} {e : Tree} {v : Value} {n : Number}

/-- The text is arithmetic over the store, and the tree is what it writes: it shows its tokens and nothing else, all
    of them write the tree, everything in the tree is numeric, and so is every token. -/
structure OnlyArithmetic (store : Store) (t : Text) (e : Tree) : Prop where
  shows : Shows t (tokens t)
  writes : Writes 0 e (tokens t)
  numeric : e.Numeric store
  admitted : ∀ token ∈ tokens t, Admitted store token

theorem onlyArithmetic_of_writes (h : Writes 0 e (tokens t)) (hnumeric : e.Numeric store) : OnlyArithmetic store t e where
  shows := shows_tokens (h.admitted hnumeric)
  writes := h
  numeric := hnumeric
  admitted := h.admitted hnumeric

/-- What has a value was read as arithmetic: to other texts the reader of expressions only gives a fault. -/
theorem valueOf_cases (h : valueOf store t = .ok n) : ∃ e, Tree.ofTokens (tokens t) = .ok e ∧ e.value store = .ok n := by
  unfold valueOf at h
  split at h
  · next e he => exact ⟨e, he, h⟩
  · cases h
  · cases h

/-- If a text evaluates, it is arithmetic, and it evaluates to the value of its tree as an integer of 64 bits. And if
    the grammar of expressions makes a tree of it that has a value, then it is arithmetic, with that tree. -/
theorem only_arithmetic_has_value (store : Store) (t : Text) :
    (∀ v, evaluate store t = .ok v →
      ∃ e n i, OnlyArithmetic store (prepared t) e ∧ e.value store = .ok n ∧ n.toInteger? = some i ∧
        v = .integer i ∧ -(2 ^ 63) ≤ i ∧ i ≤ 2 ^ 63 - 1) ∧
    ∀ e n, Grammar.tree (prepared t) = .ok e → e.value store = .ok n → OnlyArithmetic store (prepared t) e := by
  refine ⟨fun v hv => ?_, fun e n he hn => ?_⟩
  · obtain ⟨n, i, hn, hi, rfl⟩ := evaluate_value hv
    obtain ⟨e, he, hvalue⟩ := valueOf_cases hn
    have honly := onlyArithmetic_of_writes (writes_of_ofTokens he) (numeric_of_value hvalue)
    exact ⟨e, n, i, honly, hvalue, hi, rfl, inRange_iff.mp (n.toInteger?_inRange hi)⟩
  · have hnumeric := numeric_of_value hn
    exact onlyArithmetic_of_writes (Grammar.writes_of_tree he hnumeric) hnumeric

/-- The name is written in full width, the line goes on twice, and a comment follows. -/
theorem only_arithmetic_has_value_over_lines :
    evaluate ⟨[("x".toText, .integer 3)]⟩ " (\uFF58 +\n 1) * \\\n2 # doubled".toText = .ok (.integer 8) ∧
      ∃ e, OnlyArithmetic ⟨[("x".toText, .integer 3)]⟩ (prepared " (\uFF58 +\n 1) * \\\n2 # doubled".toText) e := by
  have hvalue : evaluate ⟨[("x".toText, .integer 3)]⟩ " (\uFF58 +\n 1) * \\\n2 # doubled".toText = .ok (.integer 8) := by
    decide +kernel
  obtain ⟨e, -, -, honly, -⟩ := (only_arithmetic_has_value _ _).1 _ hvalue
  exact ⟨hvalue, e, honly⟩

/-- A power has no value even where it would be multiplied by zero. -/
example : evaluate ⟨[("x".toText, .integer 3)]⟩ "0 * (x ** 2)".toText = .error (.badArithmetic "0 * (x ** 2)".toText) := by
  decide +kernel

end LineScript.Arithmetic
