import LineScript.Proofs.Arithmetic.Derivation
import LineScript.Proofs.Arithmetic.Marks
import LineScript.Proofs.Arithmetic.Spelling

/-! What the grammar of expressions makes of operands, arithmetic being a small part of it. Its rules that an operand
    can be made of either wrap what they find into something foreign, or pass on one operand as it is, or join and
    sign operands by the marks of arithmetic. So where a rule finds a tree in which everything is numeric, it has
    passed over none but the tokens that write the tree. -/

namespace LineScript.Arithmetic.Grammar

variable {source : Source} {store : Store} {start middle stop : Nat} {ts us : List Token} {t m : Token} {ps found : List Part}

/-! ### Stretches of tokens -/

/-- From one position of the source up to another there stand just these tokens. -/
def Stretch (source : Source) (start stop : Nat) (ts : List Token) : Prop :=
  stop = start + ts.length ∧ ∀ (i : Nat) t, ts[i]? = some t → source.token? (start + i) = some t

theorem stretch_single (h : source.token? start = some t) : Stretch source start (start + 1) [t] := by
  refine ⟨rfl, fun i t' hi => ?_⟩
  cases i with
  | zero =>
    obtain rfl := Option.some.inj hi
    exact h
  | succ i => cases hi

theorem Stretch.append (h : Stretch source start middle ts) (h' : Stretch source middle stop us) :
    Stretch source start stop (ts ++ us) := by
  obtain ⟨rfl, hts⟩ := h
  obtain ⟨rfl, hus⟩ := h'
  refine ⟨by rw [List.length_append, Nat.add_assoc], fun i t hi => ?_⟩
  by_cases hlt : i < ts.length
  · rw [List.getElem?_append_left hlt] at hi
    exact hts i t hi
  · rw [List.getElem?_append_right (Nat.le_of_not_lt hlt)] at hi
    have hplace := hus _ t hi
    rwa [Nat.add_assoc, Nat.add_sub_cancel' (Nat.le_of_not_lt hlt)] at hplace

/-- What is in the source: the tokens of a text, and quoted texts that are foreign to arithmetic. -/
structure Ordinary (source : Source) (ts : List Token) : Prop where
  token : ∀ i, source.token? i = ts[i]?
  proper : ∀ t ∈ ts, Proper t
  foreign : ∀ {start qs e}, source.joined start qs = .ok e → ∃ height, e = .foreign height .plain

/-- A stretch up to the end of the source is all of its tokens. -/
theorem Stretch.whole (h : Stretch source 0 stop ts) (hsource : Ordinary source us) (hstop : source.token? stop = none) :
    ts = us := by
  obtain ⟨rfl, hts⟩ := h
  rw [Nat.zero_add] at hstop
  refine List.ext_getElem? fun i => ?_
  cases hi : ts[i]? with
  | some t =>
    have hplace := hts i t hi
    rw [Nat.zero_add, hsource.token] at hplace
    exact hplace.symm
  | none =>
    rw [hsource.token] at hstop
    have hle := List.getElem?_eq_none_iff.mp hi
    exact (List.getElem?_eq_none_iff.mpr (Nat.le_trans (List.getElem?_eq_none_iff.mp hstop) hle)).symm

/-! ### Operands -/

/-- One part is found, and if all in its tree is numeric, the tokens it was found for write the tree in the rank. -/
def Operand (source : Source) (store : Store) (rank start stop : Nat) (ps : List Part) : Prop :=
  ∃ p, ps = [p] ∧ (p.tree.Numeric store → ∃ ts, Stretch source start stop ts ∧ Writes rank p.tree ts)

theorem Operand.le {k rank : Nat} (hk : k ≤ rank) (h : Operand source store rank start stop ps) :
    Operand source store k start stop ps := by
  obtain ⟨p, rfl, h⟩ := h
  refine ⟨p, rfl, fun hnumeric => ?_⟩
  obtain ⟨ts, hstretch, hwrites⟩ := h hnumeric
  exact ⟨ts, hstretch, hwrites.le hk⟩

/-- The rank of what a rule finds, for the rules that an operand can be made of. -/
def Rule.rank? : Rule → Option Nat
  | .expressions | .expression | .function | .disjunction | .conjunction | .inversion | .comparison => some 0
  | .bitOr | .bitXor | .bitAnd | .shift | .sum => some 0
  | .yielded | .namedExpression | .assignment => some 0
  | .term => some 1
  | .factor | .power | .awaited | .primary | .atom | .group | .quotations => some 2
  | .tuple | .generator | .list | .listLoop | .set | .setLoop | .dict | .dictLoop => some 2
  | _ => none

/-- What is said of the rules: those of a rank find an operand of that rank, and those for a wrong item of a
    dictionary find nothing. -/
def Operands (source : Source) (store : Store) : Saying := fun r start stop ps =>
  match r.rank? with
  | some rank => Operand source store rank start stop ps
  | none => r ≠ .wrongPair ∧ r ≠ .wrongPairs

/-! ### Patterns -/

variable {M : Saying} {rank k : Nat} {p q : Pattern} {r : Rule} {all : List Token}

theorem finds_mark (hsource : Ordinary source all) (hm : m ∈ marks)
    (h : Finds source M (.pattern (.sign m.spelling)) start stop ps) : ps = [] ∧ Stretch source start stop [m] := by
  cases h with
  | @token _ _ t _ ht hfound =>
    have hmem : t ∈ all := by
      rw [hsource.token] at ht
      exact List.mem_of_getElem? ht
    have hif : (if t.spelling = m.spelling ∧ m.spelling ≠ [] then some [] else none) = some ps := Except.ok.inj hfound
    split at hif
    · next hspelling =>
      obtain rfl := hsource.proper t hmem m hm hspelling.1
      exact ⟨(Option.some.inj hif).symm, stretch_single ht⟩
    · cases hif

/-- The pattern finds an operand of the rank. -/
def Gives (source : Source) (store : Store) (rank : Nat) (p : Pattern) : Prop :=
  ∀ start stop ps, Finds source (Operands source store) (.pattern p) start stop ps →
    Operand source store rank start stop ps

theorem gives_rule (hr : r.rank? = some k) (hk : rank ≤ k) : Gives source store rank (.rule r) := by
  intro start stop ps h
  have hoperand := h.of_rule
  unfold Operands at hoperand
  rw [hr] at hoperand
  exact hoperand.le hk

theorem gives_name : Gives source store 2 .name := by
  intro start stop ps h
  cases h with
  | @token _ _ t _ ht hfound =>
    cases t with
    | name written =>
      obtain rfl := Option.some.inj (Except.ok.inj hfound)
      exact ⟨_, rfl, fun _ => ⟨_, stretch_single ht, .name written⟩⟩
    | _ => cases hfound

theorem gives_number : Gives source store 2 .number := by
  intro start stop ps h
  cases h with
  | @token _ _ t _ ht hfound =>
    cases t with
    | number n =>
      obtain rfl := Option.some.inj (Except.ok.inj hfound)
      exact ⟨_, rfl, fun _ => ⟨_, stretch_single ht, .number n⟩⟩
    | imaginary =>
      obtain rfl := Option.some.inj (Except.ok.inj hfound)
      exact ⟨_, rfl, fun hnumeric => hnumeric.elim⟩
    | _ => cases hfound

theorem gives_joined (hsource : Ordinary source all) : Gives source store 2 .joined := by
  intro start stop ps h
  cases h with
  | token ht hfound => cases hfound
  | joined he =>
    obtain ⟨height, rfl⟩ := hsource.foreign he
    exact ⟨_, rfl, fun hnumeric => hnumeric.elim⟩

/-- One of some rules that are ranked highly enough gives an operand. -/
theorem gives_oneOf {rules : List Rule} (h : ∀ r ∈ rules, ∃ k, r.rank? = some k ∧ rank ≤ k) :
    Gives source store rank (oneOf (rules.map fun r => [.rule r])) := by
  intro start stop ps hfinds
  cases hfinds with
  | token ht hfound => cases hfound
  | group hchoice =>
    cases hchoice with
    | choice hmem hsequence hbuild =>
      obtain ⟨patterns, hpatterns, heq⟩ := List.mem_map.mp hmem
      obtain ⟨r, hr, rfl⟩ := List.mem_map.mp hpatterns
      obtain ⟨-, rfl, rfl⟩ := Alternative.mk.inj heq
      obtain rfl := Made.parts.inj hbuild
      obtain ⟨k, hrank, hk⟩ := h r hr
      cases hsequence with
      | next hrule hrest =>
        cases hrest
        rw [List.append_nil]
        exact gives_rule hrank hk _ _ _ hrule

/-! ### Alternatives -/

/-- The alternative comes to an operand of the rank, if it comes to anything. -/
def Makes (source : Source) (store : Store) (rank : Nat) : Alternative → Prop
  | .mk _ patterns build => ∀ start stop found inside ps,
    Finds source (Operands source store) (.sequence patterns) start stop found →
      build ⟨start, stop - 1, found, inside⟩ = .parts ps → Operand source store rank start stop ps

variable {patterns : List Pattern} {make : List Tree → Tree}

theorem makes_mistake : Makes source store rank (mistake r) := fun _ _ _ _ _ _ hbuild => nomatch hbuild

theorem makes_making (h : ∀ es, ¬(make es).Numeric store) : Makes source store rank (making make patterns) := by
  intro start stop found inside ps hfinds hbuild
  obtain rfl := Made.parts.inj hbuild
  exact ⟨_, rfl, fun hnumeric => absurd hnumeric (h _)⟩

theorem makes_gathering (h : ∀ es, ¬(make es).Numeric store) : Makes source store rank (gathering make patterns) := by
  intro start stop found inside ps hfinds hbuild
  obtain rfl := Made.parts.inj hbuild
  exact ⟨_, rfl, fun hnumeric => absurd hnumeric (h _)⟩

theorem makes_parts (h : Gives source store rank p) : Makes source store rank (parts [p]) := by
  intro start stop found inside ps hfinds hbuild
  obtain rfl := Made.parts.inj hbuild
  cases hfinds with
  | next hp hrest =>
    cases hrest
    rw [List.append_nil]
    exact h _ _ _ hp

/-- Looking ahead finds no parts and passes no tokens. -/
theorem finds_ahead {expected : Bool} (h : Finds source M (.pattern (.ahead expected p)) start stop ps) :
    ps = [] ∧ stop = start := by
  cases h with
  | token ht hfound => cases hfound
  | ahead => exact ⟨rfl, rfl⟩

theorem makes_ahead {expected : Bool} (h : Gives source store rank p) :
    Makes source store rank (parts [.ahead expected q, p]) := by
  intro start stop found inside ps hfinds hbuild
  obtain rfl := Made.parts.inj hbuild
  cases hfinds with
  | next hahead hrest =>
    obtain ⟨rfl, rfl⟩ := finds_ahead hahead
    cases hrest with
    | next hp hrest =>
      cases hrest
      rw [List.append_nil]
      exact h _ _ _ hp

theorem makes_behind {expected : Bool} (h : Gives source store rank p) :
    Makes source store rank (parts [p, .ahead expected q]) := by
  intro start stop found inside ps hfinds hbuild
  obtain rfl := Made.parts.inj hbuild
  cases hfinds with
  | next hp hrest =>
    cases hrest with
    | next hahead hrest =>
      obtain ⟨rfl, rfl⟩ := finds_ahead hahead
      cases hrest
      rw [List.append_nil, List.append_nil]
      exact h _ _ _ hp

/-! ### Marks between and around operands -/

theorem finds_between (hsource : Ordinary source all) (hm : m ∈ marks) {left right : Nat} (hp : Gives source store left p)
    (hq : Gives source store right q)
    (h : Finds source (Operands source store) (.sequence [p, .sign m.spelling, q]) start stop found) :
    ∃ a b, found = [a, b] ∧ (a.tree.Numeric store → b.tree.Numeric store →
      ∃ ts us, Stretch source start stop (ts ++ m :: us) ∧ Writes left a.tree ts ∧ Writes right b.tree us) := by
  cases h with
  | next hleft hrest =>
    cases hrest with
    | next hmark hrest =>
      cases hrest with
      | next hright hrest =>
        cases hrest
        obtain ⟨a, rfl, ha⟩ := hp _ _ _ hleft
        obtain ⟨rfl, hstretch⟩ := finds_mark hsource hm hmark
        obtain ⟨b, rfl, hb⟩ := hq _ _ _ hright
        refine ⟨a, b, rfl, fun hleft hright => ?_⟩
        obtain ⟨ts, hts, hwrites⟩ := ha hleft
        obtain ⟨us, hus, hwrites'⟩ := hb hright
        exact ⟨ts, us, hts.append (hstretch.append hus), hwrites, hwrites'⟩

theorem makes_sum (hsource : Ordinary source all) (hm : m ∈ marks) {op : Operator} (hop : sumOperator? m = some op) :
    Makes source store 0 (making (joining op) [Rule.sum, .sign m.spelling, Rule.term]) := by
  intro start stop found inside ps hfinds hbuild
  obtain ⟨a, b, rfl, h⟩ := finds_between hsource hm (gives_rule rfl (Nat.le_refl 0)) (gives_rule rfl (Nat.le_refl 1)) hfinds
  obtain rfl := Made.parts.inj hbuild
  refine ⟨_, rfl, fun hnumeric => ?_⟩
  obtain ⟨ts, us, hstretch, hleft, hright⟩ := h hnumeric.2.1 hnumeric.2.2
  exact ⟨_, hstretch, .sum hop hleft hright⟩

theorem makes_product (hsource : Ordinary source all) (hm : m ∈ marks) {op : Operator} (hop : termOperator? m = some op) :
    Makes source store 1 (making (joining op) [Rule.term, .sign m.spelling, Rule.factor]) := by
  intro start stop found inside ps hfinds hbuild
  obtain ⟨a, b, rfl, h⟩ := finds_between hsource hm (gives_rule rfl (Nat.le_refl 1)) (gives_rule rfl (Nat.le_refl 2)) hfinds
  obtain rfl := Made.parts.inj hbuild
  refine ⟨_, rfl, fun hnumeric => ?_⟩
  obtain ⟨ts, us, hstretch, hleft, hright⟩ := h hnumeric.2.1 hnumeric.2.2
  exact ⟨_, hstretch, .product hop hleft hright⟩

/-- A sign in front of a factor makes a factor. -/
theorem makes_signed (hsource : Ordinary source all) (hm : m ∈ marks) {sign : Sign}
    (hwrites : ∀ {e ts}, Writes 2 e ts → Writes 2 (.unary sign e) (m :: ts)) :
    Makes source store 2 (making (signed sign) [.sign m.spelling, Rule.factor]) := by
  intro start stop found inside ps hfinds hbuild
  cases hfinds with
  | next hmark hrest =>
    cases hrest with
    | next hfactor hrest =>
      cases hrest
      obtain ⟨rfl, hstretch⟩ := finds_mark hsource hm hmark
      obtain ⟨a, rfl, ha⟩ := gives_rule rfl (Nat.le_refl 2) _ _ _ hfactor
      obtain rfl := Made.parts.inj hbuild
      refine ⟨_, rfl, fun hnumeric => ?_⟩
      obtain ⟨ts, hts, hoperand⟩ := ha hnumeric.2
      exact ⟨_, hstretch.append hts, hwrites hoperand⟩

/-- Brackets around an operand of any rank make a factor. -/
theorem makes_bracketed (hsource : Ordinary source all) (hp : Gives source store 0 p) :
    Makes source store 2 (parts [.sign Token.opening.spelling, p, .sign Token.closing.spelling]) := by
  intro start stop found inside ps hfinds hbuild
  cases hfinds with
  | next hopening hrest =>
    cases hrest with
    | next hinside hrest =>
      cases hrest with
      | next hclosing hrest =>
        cases hrest
        obtain ⟨rfl, hbefore⟩ := finds_mark hsource (by decide) hopening
        obtain ⟨a, rfl, ha⟩ := hp _ _ _ hinside
        obtain ⟨rfl, hafter⟩ := finds_mark hsource (by decide) hclosing
        obtain rfl := Made.parts.inj hbuild
        refine ⟨a, rfl, fun hnumeric => ?_⟩
        obtain ⟨ts, hts, hoperand⟩ := ha hnumeric
        exact ⟨_, hbefore.append (hts.append hafter), .bracketed hoperand⟩

/-! ### Rules -/

theorem not_numeric_joining_other (es : List Tree) : ¬(joining .other es).Numeric store := by
  unfold joining
  split
  · exact fun h => h.1 rfl
  · exact id

theorem not_numeric_signed_other (es : List Tree) : ¬(signed .other es).Numeric store := by
  unfold signed
  split
  · exact fun h => h.1 rfl
  · exact id

/-- Operators that have no meaning for numbers make nothing numeric. -/
theorem makes_ranked {self operand : Rule} {operators : List (String × Operator)} (h : ∀ o ∈ operators, o.2 = .other)
    (hoperand : operand.rank? = some 0) : ∀ a ∈ ranked self operand operators, Makes source store 0 a := by
  intro a ha
  rcases List.mem_append.mp ha with ha | ha
  · obtain ⟨o, ho, rfl⟩ := List.mem_map.mp ha
    rw [h o ho]
    exact makes_making not_numeric_joining_other
  · obtain rfl := List.mem_singleton.mp ha
    exact makes_parts (gives_rule hoperand (Nat.le_refl 0))

theorem makes_chain {word : String} {operand : Rule} (hoperand : operand.rank? = some 0) :
    ∀ a ∈ chain word operand, Makes source store 0 a := by
  refine List.forall_mem_cons.mpr ⟨makes_making fun _ h => h, List.forall_mem_singleton.mpr ?_⟩
  exact makes_parts (gives_rule hoperand (Nat.le_refl 0))

/-- The alternative comes to nothing. -/
def Vain (source : Source) (store : Store) : Alternative → Prop
  | .mk _ patterns build => ∀ start stop found inside ps,
    Finds source (Operands source store) (.sequence patterns) start stop found →
      build ⟨start, stop - 1, found, inside⟩ ≠ .parts ps

theorem Vain.makes {a : Alternative} (h : Vain source store a) : Makes source store rank a := by
  obtain ⟨mistake, patterns, build⟩ := a
  exact fun _ _ _ _ _ hfinds hbuild => absurd hbuild (h _ _ _ _ _ hfinds)

theorem vain_fault {spot : Match → Spot} : Vain source store (fault spot patterns) :=
  fun _ _ _ _ _ _ => Made.noConfusion

/-- No wrong item of a dictionary is found, since that would be a fault. -/
theorem vain_wrongPair : Vain source store (parts [p, q, Rule.wrongPair]) := by
  intro start stop found inside ps hfinds
  cases hfinds with
  | next hp hrest =>
    cases hrest with
    | next hq hrest =>
      cases hrest with
      | next hwrong hrest => exact absurd rfl hwrong.of_rule.1

theorem vain_wrongPairs : Vain source store (parts [p, Rule.wrongPairs, q]) := by
  intro start stop found inside ps hfinds
  cases hfinds with
  | next hp hrest =>
    cases hrest with
    | next hwrong hrest => exact absurd rfl hwrong.of_rule.2

/-- The alternatives of an operand. -/
theorem makes_atom : ∀ a ∈ Rule.atom.alternatives, Makes source store 2 a := by
  have hforeign : ∀ {patterns : List Pattern}, Makes source store 2 (making spanning patterns) :=
    makes_making fun _ h => h
  have hbracket (rules : List Rule) {q : Pattern} (h : ∀ r ∈ rules, ∃ k, r.rank? = some k ∧ 2 ≤ k) :
      Makes source store 2 (parts [.next q, oneOf (rules.map fun r => [.rule r])]) :=
    makes_ahead (gives_oneOf h)
  rw [← List.forall_iff_forall_mem]
  exact ⟨makes_parts gives_name, hforeign, hforeign, hforeign, makes_ahead (gives_rule rfl (Nat.le_refl 2)),
    makes_parts gives_number,
    hbracket [.tuple, .group, .generator] (by simp [Rule.rank?]),
    hbracket [.list, .listLoop] (by simp [Rule.rank?]),
    hbracket [.dict, .set, .dictLoop, .setLoop] (by simp [Rule.rank?]),
    hforeign⟩

/-- Every alternative of a ranked rule comes to an operand of its rank, if to anything. -/
theorem makes_alternatives (hsource : Ordinary source all) (hr : r.rank? = some rank) :
    ∀ a ∈ r.alternatives, Makes source store rank a := by
  have hspanning : ∀ {k : Nat} {patterns : List Pattern}, Makes source store k (making spanning patterns) :=
    makes_making fun _ h => h
  have hplace : ∀ {k : Nat} {patterns : List Pattern}, Makes source store k (making place patterns) :=
    makes_making fun _ h => h
  have hpacked : ∀ {k : Nat} {patterns : List Pattern}, Makes source store k (gathering packed patterns) :=
    makes_gathering fun _ h => h
  have hother : ∀ {k : Nat} {patterns : List Pattern}, Makes source store k (making (joining .other) patterns) :=
    makes_making not_numeric_joining_other
  have hpass : ∀ {r : Rule} {k : Nat}, r.rank? = some k → Makes source store k (parts [.rule r]) :=
    fun h => makes_parts (gives_rule h (Nat.le_refl _))
  rw [← List.forall_iff_forall_mem]
  cases r with
  | disjunction | conjunction =>
    cases hr
    exact List.forall_iff_forall_mem.mpr (makes_chain rfl)
  | bitOr | bitXor | bitAnd | shift =>
    cases hr
    exact List.forall_iff_forall_mem.mpr (makes_ranked (by decide) rfl)
  | atom =>
    cases hr
    exact List.forall_iff_forall_mem.mpr makes_atom
  | sum =>
    cases hr
    have hterm : Makes source store 0 (parts [.rule .term]) := makes_parts (gives_rule rfl (Nat.zero_le 1))
    exact ⟨makes_sum hsource (m := .plus) (by decide) rfl, makes_sum hsource (m := .minus) (by decide) rfl, hterm⟩
  | term =>
    cases hr
    have hfactor : Makes source store 1 (parts [.rule .factor]) := makes_parts (gives_rule rfl (Nat.le_succ 1))
    exact ⟨makes_product hsource (m := .star) (by decide) rfl, makes_product hsource (m := .slash) (by decide) rfl,
      hother, hother, hother, hfactor⟩
  | factor =>
    cases hr
    exact ⟨makes_signed hsource (m := .plus) (by decide) .plus, makes_signed hsource (m := .minus) (by decide) .minus,
      makes_making not_numeric_signed_other, hpass rfl⟩
  | group =>
    cases hr
    have hinside : Gives source store 0 (oneOf ([Rule.yielded, Rule.namedExpression].map fun r => [.rule r])) :=
      gives_oneOf (by simp [Rule.rank?])
    exact ⟨makes_bracketed hsource hinside, makes_mistake⟩
  | namedExpression =>
    cases hr
    exact ⟨hpass rfl, makes_mistake, makes_behind (gives_rule rfl (Nat.le_refl 0))⟩
  | comparison =>
    cases hr
    exact ⟨makes_gathering fun _ h => h, hpass rfl⟩
  | inversion =>
    cases hr
    exact ⟨makes_making not_numeric_signed_other, hpass rfl⟩
  | quotations =>
    cases hr
    exact makes_parts (gives_joined hsource)
  | expressions =>
    cases hr
    exact ⟨hpacked, hpacked, hpass rfl⟩
  | expression =>
    cases hr
    exact ⟨makes_mistake, makes_mistake, hspanning, hpass rfl, hpass rfl⟩
  | power =>
    cases hr
    exact ⟨hother, hpass rfl⟩
  | awaited =>
    cases hr
    exact ⟨hspanning, hpass rfl⟩
  | primary =>
    cases hr
    exact ⟨hplace, hspanning, hspanning, hplace, hpass rfl⟩
  | function | assignment | set => exact hspanning
  | yielded => exact ⟨hspanning, hspanning⟩
  | tuple | list => exact hpacked
  | dict => exact ⟨hspanning, vain_wrongPairs.makes⟩
  | listLoop | setLoop | dictLoop | generator => exact ⟨hspanning, makes_mistake⟩
  | _ => cases hr

theorem vain_alternatives (hr : r = .wrongPair ∨ r = .wrongPairs) : ∀ a ∈ r.alternatives, Vain source store a := by
  rw [← List.forall_iff_forall_mem]
  rcases hr with rfl | rfl
  · exact ⟨vain_fault, vain_fault, vain_fault⟩
  · exact ⟨vain_wrongPair, vain_fault, vain_fault⟩

theorem closed_operands (hsource : Ordinary source all) : Closed source (Operands source store) := by
  intro r start stop ps h
  cases h with
  | choice hmem hfinds hbuild =>
    unfold Operands
    split
    · next rank hr => exact makes_alternatives hsource hr _ hmem _ _ _ _ _ hfinds hbuild
    · refine ⟨fun hr => ?_, fun hr => ?_⟩
      · exact vain_alternatives (.inl hr) _ hmem _ _ _ _ _ hfinds hbuild
      · exact vain_alternatives (.inr hr) _ hmem _ _ _ _ _ hfinds hbuild

end LineScript.Arithmetic.Grammar
