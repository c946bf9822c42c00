import LineScript.Proofs.Arithmetic.Whitelist

/-! The names in a tree. Whether arithmetic or the whole grammar of expressions makes a tree of a text, the names in it
    are tokens of the text: the rules of the grammar hand on the trees that they find, join or sign them, or wrap them
    into something foreign, which has no names. And a store is asked for nothing else when the tree is evaluated. -/

namespace LineScript.Arithmetic

variable {store store' : Store} {e : Tree} {rank : Nat} {ts : List Token} {t w : Text}

/-- The names in a tree as they are written, from the left. Of what is foreign none is kept. -/
def Tree.names : Tree → List Text
  | .number _ => []
  | .name written => [written]
  | .unary _ operand => operand.names
  | .binary _ left right => left.names ++ right.names
  | .foreign _ _ => []

/-! ### The reader of arithmetic -/

theorem Writes.mem_of_names (h : Writes rank e ts) (hw : w ∈ e.names) : .name w ∈ ts := by
  induction h with
  | number n => cases hw
  | name written =>
    obtain rfl := List.mem_singleton.mp hw
    exact List.mem_singleton_self _
  | plus h ih | minus h ih => exact List.mem_cons_of_mem _ (ih hw)
  | bracketed h ih => exact List.mem_cons_of_mem _ (List.mem_append_left _ (ih hw))
  | product hop hl hr ihl ihr | sum hop hl hr ihl ihr =>
    rcases List.mem_append.mp hw with hw | hw
    · exact List.mem_append_left _ (ihl hw)
    · exact List.mem_append_right _ (List.mem_cons_of_mem _ (ihr hw))
  | lower h ih => exact ih hw

/-! ### The grammar -/

namespace Grammar

variable {source : Source} {start stop : Nat} {all : List Token} {ps : List Part} {p : Pattern}
  {patterns : List Pattern} {make : List Tree → Tree}

/-- Every name in the trees of the parts is a token of the source. -/
def Named (source : Source) (ps : List Part) : Prop :=
  ∀ p ∈ ps, ∀ w ∈ p.tree.names, ∃ i, source.token? i = some (.name w)

theorem Named.append {qs : List Part} (hp : Named source ps) (hq : Named source qs) : Named source (ps ++ qs) :=
  List.forall_mem_append.mpr ⟨hp, hq⟩

theorem named_single {part : Part} (h : part.tree.names = []) : Named source [part] := by
  refine List.forall_mem_singleton.mpr fun w hw => ?_
  rw [h] at hw
  cases hw

/-- What is said of every rule: the parts that it finds are named. -/
def Names (source : Source) : Saying := fun _ _ _ ps => Named source ps

theorem named_of_tokenParts {t : Token} (ht : source.token? start = some t)
    (h : tokenParts start p t = .ok (some ps)) : Named source ps := by
  unfold tokenParts at h
  split at h
  · split at h <;> cases h
    exact List.forall_mem_nil _
  · cases h
    refine List.forall_mem_singleton.mpr fun w hw => ?_
    obtain rfl := List.mem_singleton.mp hw
    exact ⟨start, ht⟩
  · split at h <;> cases h
    exact List.forall_mem_nil _
  · cases h
    exact named_single rfl
  · cases h
    exact named_single rfl
  · cases h
  · cases h
    exact List.forall_mem_nil _
  · cases h

/-- The pattern hands on what it finds, so that this is named where the rules find what is named. -/
def Hands (source : Source) (p : Pattern) : Prop :=
  ∀ start stop ps, Finds source (Names source) (.pattern p) start stop ps → Named source ps

theorem hands_sign {s : Text} : Hands source (.sign s) := by
  rintro _ _ _ (⟨ht, h⟩)
  exact named_of_tokenParts ht h

theorem hands_name : Hands source .name := by
  rintro _ _ _ (⟨ht, h⟩)
  exact named_of_tokenParts ht h

theorem hands_number : Hands source .number := by
  rintro _ _ _ (⟨ht, h⟩)
  exact named_of_tokenParts ht h

theorem hands_joined (hsource : Ordinary source all) : Hands source .joined := by
  intro start stop ps h
  cases h with
  | token ht h => cases h
  | joined he =>
    obtain ⟨height, rfl⟩ := hsource.foreign he
    exact named_single rfl

theorem hands_rule {r : Rule} : Hands source (.rule r) := fun _ _ _ h => h.of_rule

theorem hands_ahead {expected : Bool} : Hands source (.ahead expected p) := by
  intro start stop ps h
  obtain ⟨rfl, -⟩ := finds_ahead h
  exact List.forall_mem_nil _

theorem hands_optional (h : Hands source p) : Hands source (.optional p) := by
  intro start stop ps hfinds
  cases hfinds with
  | token ht hfound => cases hfound
  | present hfound => exact h _ _ _ hfound
  | absent => exact List.forall_mem_nil _

theorem named_of_sequence (h : ∀ p ∈ patterns, Hands source p)
    (hfinds : Finds source (Names source) (.sequence patterns) start stop ps) : Named source ps := by
  induction patterns generalizing start ps with
  | nil =>
    cases hfinds
    exact List.forall_mem_nil _
  | cons p patterns ih =>
    obtain ⟨hp, hrest⟩ := List.forall_mem_cons.mp h
    cases hfinds with
    | next hfound hmore => exact (hp _ _ _ hfound).append (ih hrest hmore)

theorem hands_repeated {needed : Bool} (h : ∀ p ∈ patterns, Hands source p) :
    Hands source (.repeated needed patterns) := by
  intro start stop ps hfinds
  cases hfinds with
  | token ht hfound => cases hfound
  | repeated hrounds =>
    generalize hgoal : Goal.rounds patterns = goal at hrounds
    induction hrounds with
    | none => exact List.forall_mem_nil _
    | again hbefore hround ih =>
      cases hgoal
      exact (ih rfl).append (named_of_sequence h hround)
    | _ => cases hgoal

theorem hands_oneOf {alternatives : List (List Pattern)} (h : ∀ ps ∈ alternatives, ∀ p ∈ ps, Hands source p) :
    Hands source (oneOf alternatives) := by
  intro start stop ps hfinds
  cases hfinds with
  | token ht hfound => cases hfound
  | group hchoice =>
    cases hchoice with
    | choice hmem hsequence hbuild =>
      obtain ⟨patterns, hpatterns, heq⟩ := List.mem_map.mp hmem
      obtain ⟨-, rfl, rfl⟩ := Alternative.mk.inj heq
      obtain rfl := Made.parts.inj hbuild
      exact named_of_sequence (h _ hpatterns) hsequence

theorem hands_separated {sign : String} (h : Hands source p) : Hands source (separated sign p) :=
  hands_oneOf (List.forall_mem_singleton.mpr (List.forall_mem_cons.mpr ⟨h, List.forall_mem_singleton.mpr
    (hands_repeated (List.forall_mem_cons.mpr ⟨hands_sign, List.forall_mem_singleton.mpr h⟩))⟩))

theorem hands_assignable : Hands source assignable :=
  hands_oneOf (by simp [unassigned, Pattern.not, hands_rule, hands_ahead])

/-- What the alternative comes to is named where the rules find what is named. -/
def Keeps (source : Source) : Alternative → Prop
  | .mk _ patterns build => ∀ start stop found inside ps,
    Finds source (Names source) (.sequence patterns) start stop found →
      build ⟨start, stop - 1, found, inside⟩ = .parts ps → Named source ps

theorem keeps_mistake {r : Rule} : Keeps source (mistake r) := fun _ _ _ _ _ _ hbuild => nomatch hbuild

theorem keeps_fault {spot : Match → Spot} : Keeps source (fault spot patterns) :=
  fun _ _ _ _ _ _ hbuild => nomatch hbuild

theorem keeps_faultIf {condition : Match → Bool} {spot : Match → Spot} :
    Keeps source (faultIf condition spot patterns) := by
  intro start stop found inside ps hfinds hbuild
  dsimp only at hbuild
  split at hbuild <;> cases hbuild

theorem keeps_parts (h : ∀ p ∈ patterns, Hands source p) : Keeps source (parts patterns) := by
  intro start stop found inside ps hfinds hbuild
  obtain rfl := Made.parts.inj hbuild
  exact named_of_sequence h hfinds

/-- A construct without names drops those of its parts. -/
theorem keeps_making (h : ∀ es, (make es).names = []) : Keeps source (making make patterns) := by
  intro start stop found inside ps hfinds hbuild
  obtain rfl := Made.parts.inj hbuild
  exact named_single (h _)

theorem keeps_gathering (h : ∀ es, (make es).names = []) : Keeps source (gathering make patterns) := by
  intro start stop found inside ps hfinds hbuild
  obtain rfl := Made.parts.inj hbuild
  exact named_single (h _)

/-- A construct that takes its names from its parts hands them on. -/
theorem keeps_operation (hmake : ∀ es, ∀ w ∈ (make es).names, ∃ e ∈ es, w ∈ e.names)
    (h : ∀ p ∈ patterns, Hands source p) : Keeps source (making make patterns) := by
  intro start stop found inside ps hfinds hbuild
  obtain rfl := Made.parts.inj hbuild
  refine List.forall_mem_singleton.mpr fun w hw => ?_
  obtain ⟨e, he, hw⟩ := hmake _ w hw
  obtain ⟨part, hpart, rfl⟩ := List.mem_map.mp he
  exact named_of_sequence h hfinds part hpart w hw

theorem names_joining {op : Operator} : ∀ es, ∀ w ∈ (joining op es).names, ∃ e ∈ es, w ∈ e.names := by
  intro es w hw
  unfold joining at hw
  split at hw
  · rcases List.mem_append.mp hw with hw | hw
    · exact ⟨_, List.mem_cons_self, hw⟩
    · exact ⟨_, List.mem_cons_of_mem _ List.mem_cons_self, hw⟩
  · cases hw

theorem names_signed {sign : Sign} : ∀ es, ∀ w ∈ (signed sign es).names, ∃ e ∈ es, w ∈ e.names := by
  intro es w hw
  unfold signed at hw
  split at hw
  · exact ⟨_, List.mem_cons_self, hw⟩
  · cases hw

/-- Every alternative of every rule hands on the names of what it takes over. -/
theorem keeps_alternatives (hsource : Ordinary source all) (r : Rule) : ∀ a ∈ r.alternatives, Keeps source a := by
  have hspanning : ∀ es, (spanning es).names = [] := fun _ => rfl
  have hplace : ∀ es, (place es).names = [] := fun _ => rfl
  have hpacked : ∀ es, (packed es).names = [] := fun _ => rfl
  have hlabelled : ∀ es, (labelled es).names = [] := fun _ => rfl
  have hmember : ∀ es, (memberOperand es).names = [] := fun _ => rfl
  have hcompared : ∀ es, (compared es).names = [] := fun _ => rfl
  have hjoined := hands_joined hsource
  have hafter {word : String} {r : Rule} : Hands source (oneOf [[word, r]]) :=
    hands_oneOf (by simp [hands_sign, hands_rule])
  cases r with
  | argumentList =>
    have hargument : Hands source (oneOf [[Rule.starArgument], [assignable, .not "="]]) :=
      hands_oneOf (by simp [Pattern.not, hands_rule, hands_assignable, hands_ahead])
    rw [← List.forall_iff_forall_mem]
    exact ⟨keeps_parts (by simp [hands_separated hargument, hafter, hands_optional]),
      keeps_parts (by simp [hands_rule])⟩
  | _ =>
    -- what is left is built of the patterns and constructs above, each with a lemma of its own
    simp only [Rule.alternatives, mistakes, ranked, chain, test, endedParameter, unassigned, lastComma, slashed,
      Pattern.some, Pattern.many, Pattern.next, Pattern.not, List.map_cons, List.map_nil, List.cons_append,
      List.nil_append, List.forall_mem_cons, List.not_mem_nil, false_implies, implies_true, and_true,
      keeps_mistake, keeps_fault, keeps_faultIf, keeps_parts, keeps_making, keeps_gathering,
      keeps_operation names_joining, keeps_operation names_signed, hspanning, hplace, hpacked, hlabelled, hmember,
      hcompared, hands_sign, hands_name, hands_number, hands_rule, hands_ahead, hands_optional, hands_repeated,
      hands_oneOf, hands_separated, hafter, hjoined]

theorem closed_names (hsource : Ordinary source all) : Closed source (Names source) := by
  intro r start stop ps h
  cases h with
  | choice hmem hfinds hbuild => exact keeps_alternatives hsource r _ hmem _ _ _ _ _ hfinds hbuild

end Grammar

/-- A name in the tree of an expression is one of its tokens. -/
theorem Grammar.mem_of_names (h : Grammar.tree t = .ok e) (hw : w ∈ e.names) : .name w ∈ tokens t := by
  obtain ⟨outcome, p, position, hfind, hfound, -, rfl⟩ := found_of_treeBy h
  have hsource := ordinary_sourceOf (longestQuotation (tokens t) + 1) (fun _ => 0) t
  have hnamed : Named _ [p] := says_of_find (closed_names hsource) hfind hfound
  obtain ⟨i, hi⟩ := hnamed p List.mem_cons_self w hw
  rw [hsource.token] at hi
  exact List.mem_of_getElem? hi

/-! ### Evaluation -/

theorem lookup_congr (h : store'.get? (Text.normalForm w) = store.get? (Text.normalForm w)) :
    lookup store' w = lookup store w := by
  rw [lookup, lookup, h]

theorem evalTree_congr (h : ∀ w ∈ e.names, lookup store' w = lookup store w) (depth : Nat) :
    evalTree store' depth e = evalTree store depth e := by
  induction e generalizing depth with
  | number n => cases depth <;> rfl
  | name written =>
    have hlookup := h written List.mem_cons_self
    cases depth <;> exact hlookup
  | foreign height role => cases depth <;> rfl
  | unary sign operand ih =>
    cases depth with
    | zero => rfl
    | succ depth => rw [evalTree, evalTree, ih h]
  | binary op left right ihl ihr =>
    obtain ⟨hl, hr⟩ := List.forall_mem_append.mp h
    cases depth with
    | zero => rfl
    | succ depth => rw [evalTree, evalTree, ihl hl, ihr hr]

theorem Tree.value_congr (h : ∀ w ∈ e.names, lookup store' w = lookup store w) : e.value store' = e.value store := by
  rw [Tree.value, Tree.value, evalTree_congr h]

theorem valueOf_congr (h : ∀ w, .name w ∈ tokens t → lookup store' w = lookup store w) :
    valueOf store' t = valueOf store t := by
  rw [valueOf, valueOf]
  split
  · next e he => exact Tree.value_congr fun w hw => h w ((writes_of_ofTokens he).mem_of_names hw)
  · rfl
  · rw [foreignFault, foreignFault]
    cases htree : Grammar.tree t with
    | error halt => cases halt <;> rfl
    | ok e =>
      rw [faultOf, faultOf, Tree.value_congr fun w hw => h w (Grammar.mem_of_names htree hw)]

theorem evaluate_congr (h : ∀ w, .name w ∈ tokens (prepared t) → lookup store' w = lookup store w) :
    evaluate store' t = evaluate store t := by
  rw [evaluate, evaluate, valueOf_congr h]

end LineScript.Arithmetic
