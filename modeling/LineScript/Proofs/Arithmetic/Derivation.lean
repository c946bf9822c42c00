import LineScript.Arithmetic.Grammar.Reader
import LineScript.Proofs.Except

/-! Induction over what the machine of a grammar finds. Let something be said of the parts that a rule finds between
    two positions. If it can be said of a rule as soon as it can be said of the rules in one of its alternatives,
    then it is true of all that the machine hands on, from its memory too. For the memory holds nothing but results
    that were handed on before, and a stack of frames always waits for parts of its topmost frame's pattern. -/

namespace LineScript.Arithmetic.Grammar

/-- Something that is said of the parts that a rule finds between two positions. -/
abbrev Saying := Rule → Nat → Nat → List Part → Prop

/-- What may be looked for: a pattern, patterns one after the other, rounds of them, or one of some alternatives. -/
inductive Goal where
  | pattern (p : Pattern)
  | sequence (ps : List Pattern)
  | rounds (ps : List Pattern)
  | choice (alternatives : List Alternative)

/-- The parts that may be found from one position up to another, where the rules find what the saying allows. -/
inductive Finds (source : Source) (M : Saying) : Goal → Nat → Nat → List Part → Prop where
  | token {p : Pattern} {start : Nat} {t : Token} {ps : List Part} (ht : source.token? start = some t)
    (h : tokenParts start p t = .ok (some ps)) : Finds source M (.pattern p) start (start + 1) ps
  | joined {start stop last : Nat} {qs : List Quotation} {e : Tree} (h : source.joined start qs = .ok e) :
    Finds source M (.pattern .joined) start stop [⟨e, start, last, start, false⟩]
  | rule {r : Rule} {start stop : Nat} {ps : List Part} (h : M r start stop ps) :
    Finds source M (.pattern (.rule r)) start stop ps
  | group {alternatives : List Alternative} {start stop : Nat} {ps : List Part}
    (h : Finds source M (.choice alternatives) start stop ps) :
    Finds source M (.pattern (.group alternatives)) start stop ps
  | present {p : Pattern} {start stop : Nat} {ps : List Part} (h : Finds source M (.pattern p) start stop ps) :
    Finds source M (.pattern (.optional p)) start stop ps
  | absent {p : Pattern} {start : Nat} : Finds source M (.pattern (.optional p)) start start []
  | repeated {needed : Bool} {patterns : List Pattern} {start stop : Nat} {ps : List Part}
    (h : Finds source M (.rounds patterns) start stop ps) :
    Finds source M (.pattern (.repeated needed patterns)) start stop ps
  | ahead {expected : Bool} {p : Pattern} {start : Nat} : Finds source M (.pattern (.ahead expected p)) start start []
  | cut {start : Nat} : Finds source M (.pattern .cut) start start []
  | mark {start : Nat} {ps : List Part} (h : ∀ p ∈ ps, p.isMark = true) : Finds source M (.pattern .mark) start start ps
  | nothing {start : Nat} : Finds source M (.sequence []) start start []
  | next {p : Pattern} {patterns : List Pattern} {start middle stop : Nat} {ps qs : List Part}
    (h : Finds source M (.pattern p) start middle ps) (hrest : Finds source M (.sequence patterns) middle stop qs) :
    Finds source M (.sequence (p :: patterns)) start stop (ps ++ qs)
  | none {patterns : List Pattern} {start : Nat} : Finds source M (.rounds patterns) start start []
  | again {patterns : List Pattern} {start middle stop : Nat} {ps qs : List Part}
    (h : Finds source M (.rounds patterns) start middle ps) (hround : Finds source M (.sequence patterns) middle stop qs) :
    Finds source M (.rounds patterns) start stop (ps ++ qs)
  | choice {alternatives : List Alternative} {mistake inside : Bool} {patterns : List Pattern} {build : Build}
    {start stop : Nat} {found ps : List Part} (hmem : .mk mistake patterns build ∈ alternatives)
    (h : Finds source M (.sequence patterns) start stop found)
    (hbuild : build ⟨start, stop - 1, found, inside⟩ = .parts ps) :
    Finds source M (.choice alternatives) start stop ps

/-- What can be said of an alternative of a rule can be said of the rule. -/
def Closed (source : Source) (M : Saying) : Prop :=
  ∀ r start stop ps, Finds source M (.choice r.alternatives) start stop ps → M r start stop ps

variable {source : Source} {M : Saying} {goal : Goal} {p : Pattern} {patterns rest : List Pattern}
  {start middle stop : Nat} {ps qs found : List Part} {s : State} {next : Next} {f : Frame} {r root : Rule}
  {alternatives later : List Alternative} {build : Build}

theorem Finds.of_rule (h : Finds source M (.pattern (.rule r)) start stop ps) : M r start stop ps := by
  cases h with
  | token ht htoken => cases htoken
  | rule h => exact h

theorem Finds.append (h : Finds source M (.sequence patterns) start middle ps)
    (hrest : Finds source M (.sequence rest) middle stop qs) :
    Finds source M (.sequence (patterns ++ rest)) start stop (ps ++ qs) := by
  induction patterns generalizing start ps with
  | nil =>
    cases h
    exact hrest
  | cons p patterns ih =>
    cases h with
    | next h hnext =>
      rw [List.append_assoc]
      exact .next h (ih hnext)

theorem Finds.snoc (h : Finds source M (.sequence patterns) start middle ps)
    (hp : Finds source M (.pattern p) middle stop qs) : Finds source M (.sequence (patterns ++ [p])) start stop (ps ++ qs) := by
  have hone : Finds source M (.sequence [p]) middle stop (qs ++ []) := .next hp .nothing
  rw [List.append_nil] at hone
  exact h.append hone

/-! ### What a stack waits for -/

/-- The stack waits for the parts of a goal from a position on; in the end it is the rule `root` that is looked for
    at the first token. -/
inductive Awaits (source : Source) (M : Saying) (root : Rule) : List Frame → Goal → Nat → Prop where
  | bottom : Awaits source M root [] (.pattern (.rule root)) 0
  | alternative {stack : List Frame} {start middle : Nat} {found : List Part} {final mistake : Bool} {p : Pattern}
    {before rest : List Pattern} {build : Build} {alternatives later : List Alternative}
    (h : Awaits source M root stack (.choice alternatives) start)
    (hmem : .mk mistake (before ++ p :: rest) build ∈ alternatives)
    (hfound : Finds source M (.sequence before) start middle found.reverse) (hlater : later ⊆ alternatives) :
    Awaits source M root (.alternative start found final rest build later :: stack) (.pattern p) middle
  | group {stack : List Frame} {start : Nat} {alternatives : List Alternative}
    (h : Awaits source M root stack (.pattern (.group alternatives)) start) :
    Awaits source M root (.level :: stack) (.choice alternatives) start
  | rule {stack : List Frame} {start : Nat} {r : Rule} {mistakes : Bool}
    (h : Awaits source M root stack (.pattern (.rule r)) start) :
    Awaits source M root (.rule r start mistakes :: stack) (.choice r.alternatives) start
  | growing {stack : List Frame} {start reach : Nat} {r : Rule} {best : Found}
    (h : Awaits source M root stack (.pattern (.rule r)) start) (hbest : ∀ ps, best = some ps → M r start reach ps) :
    Awaits source M root (.growing r start best reach :: stack) (.choice r.alternatives) start
  | grown {stack : List Frame} {start : Nat} {alternatives : List Alternative}
    (h : Awaits source M root stack (.choice alternatives) start) :
    Awaits source M root (.level :: stack) (.choice alternatives) start
  | optional {stack : List Frame} {start : Nat} {p : Pattern}
    (h : Awaits source M root stack (.pattern (.optional p)) start) :
    Awaits source M root (.optional start :: stack) (.pattern p) start
  | ahead {stack : List Frame} {start : Nat} {expected : Bool} {p : Pattern}
    (h : Awaits source M root stack (.pattern (.ahead expected p)) start) :
    Awaits source M root (.ahead expected start :: stack) (.pattern p) start
  | repeated {stack : List Frame} {start first middle : Nat} {found round : List Part} {needed wanted : Bool} {p : Pattern}
    {patterns before rest : List Pattern} (h : Awaits source M root stack (.pattern (.repeated wanted patterns)) first)
    (hpatterns : patterns = before ++ p :: rest)
    (hfound : Finds source M (.rounds patterns) first start found.reverse)
    (hround : Finds source M (.sequence before) start middle round.reverse) :
    Awaits source M root (.repeated needed patterns start found round rest :: stack) (.pattern p) middle

/-- The results that are remembered can be said of their rules. -/
def Remembers (M : Saying) (memory : Array (List (Rule × Memory))) : Prop :=
  ∀ (i : Nat) l, memory[i]? = some l → ∀ m ∈ l, ∀ ps, m.2.found = some ps → M m.1 i m.2.position ps

/-- The memory is sound, and the stack waits for what is looked for or what is found. -/
def Sound (source : Source) (M : Saying) (root : Rule) : Next → Prop
  | .look p s => Remembers M s.memory ∧ Awaits source M root s.stack (.pattern p) s.position
  | .answer found s => Remembers M s.memory ∧ ∃ goal start, Awaits source M root s.stack goal start ∧
    ∀ ps, found = some ps → Finds source M goal start s.position ps

theorem sound_nothing (hmemory : Remembers M s.memory) (hawaits : Awaits source M root s.stack goal start) :
    Sound source M root (.answer none s) := ⟨hmemory, goal, start, hawaits, fun _ h => nomatch h⟩

theorem sound_found (hmemory : Remembers M s.memory) (hawaits : Awaits source M root s.stack goal start)
    (h : Finds source M goal start s.position ps) : Sound source M root (.answer (some ps) s) := by
  refine ⟨hmemory, goal, start, hawaits, fun qs hqs => ?_⟩
  obtain rfl := Option.some.inj hqs
  exact h

/-! ### Memory -/

theorem mem_remember {r : Rule} {m : Memory} {l : List (Rule × Memory)} {x : Rule × Memory} (h : x ∈ remember r m l) :
    x = (r, m) ∨ x ∈ l := by
  induction l with
  | nil => exact Or.inl (List.mem_singleton.mp h)
  | cons y l ih =>
    rw [remember] at h
    split at h
    · rcases List.mem_cons.mp h with rfl | h
      · exact Or.inl rfl
      · exact Or.inr (List.mem_cons_of_mem _ h)
    · rcases List.mem_cons.mp h with rfl | h
      · exact Or.inr List.mem_cons_self
      · exact (ih h).imp_right (List.mem_cons_of_mem _)

theorem Remembers.keep (h : Remembers M s.memory) {found : Found}
    (hfound : ∀ ps, found = some ps → M r start s.position ps) : Remembers M (s.keep r start found).memory := by
  intro i l hl m hm ps hps
  change (s.memory.modify start _)[i]? = some l at hl
  rw [Array.getElem?_modify] at hl
  split at hl
  · next hi =>
    subst hi
    obtain ⟨old, hold, rfl⟩ := Option.map_eq_some_iff.mp hl
    rcases mem_remember hm with rfl | hm
    · exact hfound ps hps
    · exact h _ old hold m hm ps hps
  · exact h i l hl m hm ps hps

theorem Remembers.recall (h : Remembers M s.memory) {m : Memory} (hm : s.recall? r = some m) (hps : m.found = some ps) :
    M r s.position m.position ps := by
  obtain ⟨l, hl, hlookup⟩ := Option.bind_eq_some_iff.mp hm
  obtain ⟨before, after, hsplit, -⟩ := List.lookup_eq_some_iff.mp hlookup
  exact h s.position l hl (r, m) (by rw [hsplit]; exact List.mem_append_right _ List.mem_cons_self) ps hps

/-! ### Alternatives -/

theorem sound_continueWith {final mistake : Bool} {before : List Pattern} (hmemory : Remembers M s.memory)
    (hmem : .mk mistake (before ++ rest) build ∈ alternatives) (hlater : later ⊆ alternatives)
    (hawaits : Awaits source M root s.stack (.choice alternatives) start)
    (hfound : Finds source M (.sequence before) start s.position found.reverse)
    (h : continueWith source start build later s final found rest = .ok next) : Sound source M root next := by
  induction rest generalizing final found before with
  | nil =>
    rw [continueWith] at h
    rw [List.append_nil] at hmem
    split at h
    · next ps hbuild =>
      obtain rfl := Except.ok.inj h
      exact sound_found hmemory hawaits (.choice hmem hfound hbuild)
    · obtain rfl := Except.ok.inj h
      exact sound_nothing hmemory hawaits
    · cases h
  | cons p rest ih =>
    have hsplit : .mk mistake ((before ++ [p]) ++ rest) build ∈ alternatives := by
      rwa [List.append_assoc, List.singleton_append]
    rw [continueWith.eq_def] at h
    dsimp only at h
    split at h
    · have hsnoc := hfound.snoc (p := .cut) .cut
      rw [List.append_nil] at hsnoc
      exact ih hsplit hsnoc h
    · refine ih hsplit ?_ h
      rw [List.reverse_cons]
      exact hfound.snoc (.mark (List.forall_mem_singleton.mpr rfl))
    · obtain rfl := Except.ok.inj h
      exact ⟨hmemory, .alternative hawaits hmem hfound hlater⟩

theorem sound_attempt (hmemory : Remembers M s.memory) (hlater : later ⊆ alternatives)
    (hawaits : Awaits source M root s.stack (.choice alternatives) s.position)
    (h : attempt source s later = .ok next) : Sound source M root next := by
  induction later with
  | nil =>
    rw [attempt] at h
    obtain rfl := Except.ok.inj h
    exact sound_nothing hmemory hawaits
  | cons a later ih =>
    obtain ⟨mistake, patterns, build⟩ := a
    obtain ⟨hmem, hlater⟩ := List.cons_subset.mp hlater
    rw [attempt] at h
    split at h
    · exact ih hlater h
    · have hnothing : Finds source M (.sequence []) s.position s.position [] := .nothing
      exact sound_continueWith hmemory hmem hlater hawaits hnothing h

/-! ### Steps -/

theorem State.deepen_ok {t : State} (h : s.deepen = .ok t) : t = { s with level := s.level + 1 } := by
  unfold State.deepen at h
  split at h
  · exact (Except.ok.inj h).symm
  · cases h

theorem sound_grow (hmemory : Remembers M s.memory)
    (hawaits : Awaits source M root s.stack (.choice r.alternatives) s.position) (h : grow source r s = .ok next) :
    Sound source M root next := by
  obtain ⟨t, ht, h⟩ := bind_ok_iff.mp h
  obtain rfl := s.deepen_ok ht
  exact sound_attempt (s := State.push .level { s with level := s.level + 1 }) hmemory (List.Subset.refl _)
    (.grown hawaits) h

/-- Looking at the next token changes neither what is remembered nor what is waited for. -/
theorem State.see_keeps (s : State) (c : Bool) : (if c = true then s.see else s).memory = s.memory ∧
    (if c = true then s.see else s).stack = s.stack ∧ (if c = true then s.see else s).position = s.position := by
  split
  · exact ⟨rfl, rfl, rfl⟩
  · exact ⟨rfl, rfl, rfl⟩

theorem sound_lookForRule (hmemory : Remembers M s.memory)
    (hawaits : Awaits source M root s.stack (.pattern (.rule r)) s.position) (h : lookForRule source r s = .ok next) :
    Sound source M root next := by
  obtain ⟨t, ht, h⟩ := bind_ok_iff.mp h
  obtain rfl := s.deepen_ok ht
  dsimp only at h
  split at h
  · cases h
  obtain ⟨htmemory, htstack, htposition⟩ := State.see_keeps { s with level := s.level + 1 } r.looksFirst
  generalize (if r.looksFirst = true then State.see { s with level := s.level + 1 }
    else { s with level := s.level + 1 }) = t at h htmemory htstack htposition
  dsimp only at htmemory htstack htposition
  rw [← htmemory] at hmemory
  rw [← htstack, ← htposition] at hawaits
  rw [← htposition] at h
  split at h
  · next m hm =>
    obtain rfl := Except.ok.inj h
    refine ⟨hmemory, _, t.position, hawaits, fun ps hps => .rule ?_⟩
    split at hm
    · exact hmemory.recall hm hps
    · cases hm
  · split at h
    · have hkept : Remembers M (t.keep r t.position none).memory := hmemory.keep fun _ h => nomatch h
      exact sound_grow (s := (t.keep r t.position none).push (.growing r t.position none t.position)) hkept
        (.growing hawaits fun _ h => nomatch h) h
    · exact sound_attempt (s := { (t.push (.rule r t.position t.mistakes)) with
        mistakes := t.mistakes && r ≠ .quietExpression }) hmemory (List.Subset.refl _) (.rule hawaits) h

theorem sound_lookForJoined (hmemory : Remembers M s.memory)
    (hawaits : Awaits source M root s.stack (.pattern .joined) s.position) (h : lookForJoined source s = .ok next) :
    Sound source M root next := by
  obtain ⟨t, ht, h⟩ := bind_ok_iff.mp h
  obtain rfl := s.deepen_ok ht
  dsimp only at h
  split at h
  · cases h
  split at h
  · obtain rfl := Except.ok.inj h
    exact sound_nothing hmemory hawaits
  split at h
  · next e he =>
    obtain rfl := Except.ok.inj h
    exact sound_found hmemory hawaits (.joined he)
  · cases h
  · cases h
  · cases h

/-- A look for a pattern keeps the machine sound. -/
theorem sound_look (hmemory : Remembers M s.memory) (hawaits : Awaits source M root s.stack (.pattern p) s.position)
    (h : look source s p = .ok next) : Sound source M root next := by
  unfold look at h
  split at h
  · exact sound_lookForRule hmemory hawaits h
  · exact sound_lookForJoined hmemory hawaits h
  · obtain ⟨t, ht, h⟩ := bind_ok_iff.mp h
    obtain rfl := s.deepen_ok ht
    exact sound_attempt (s := State.push .level { s with level := s.level + 1 }) hmemory (List.Subset.refl _)
      (.group hawaits) h
  · obtain rfl := Except.ok.inj h
    exact ⟨hmemory, .optional hawaits⟩
  · obtain rfl := Except.ok.inj h
    exact ⟨hmemory, .ahead hawaits⟩
  · obtain ⟨t, ht, h⟩ := bind_ok_iff.mp h
    obtain rfl := s.deepen_ok ht
    split at h
    · obtain rfl := Except.ok.inj h
      exact sound_found hmemory hawaits (.repeated .none)
    · obtain rfl := Except.ok.inj h
      exact ⟨hmemory, .repeated hawaits rfl .none .nothing⟩
  · obtain rfl := Except.ok.inj h
    exact sound_found hmemory hawaits .cut
  · obtain rfl := Except.ok.inj h
    exact sound_found hmemory hawaits (.mark (List.forall_mem_nil _))
  · dsimp only at h
    split at h
    · cases h
    · next t ht =>
      obtain ⟨found, hfound, h⟩ := bind_ok_iff.mp h
      split at h
      · obtain rfl := Except.ok.inj h
        exact sound_found hmemory hawaits (.token ht hfound)
      · obtain rfl := Except.ok.inj h
        exact sound_nothing hmemory hawaits
    · obtain rfl := Except.ok.inj h
      exact sound_nothing hmemory hawaits

/-! ### Answers -/

variable {result : Found}

theorem sound_alternative {first : Nat} {before : List Pattern} {reversed : List Part} {final mistake : Bool}
    (hmemory : Remembers M s.memory) (hawaits : Awaits source M root s.stack (.choice alternatives) first)
    (hmem : .mk mistake (before ++ p :: rest) build ∈ alternatives) (hlater : later ⊆ alternatives)
    (hbefore : Finds source M (.sequence before) first start reversed.reverse)
    (hfound : ∀ ps, result = some ps → Finds source M (.pattern p) start s.position ps)
    (h : answer source result s (.alternative first reversed final rest build later) = .ok next) :
    Sound source M root next := by
  cases result with
  | some es =>
    have hsplit : .mk mistake ((before ++ [p]) ++ rest) build ∈ alternatives := by
      rwa [List.append_assoc, List.singleton_append]
    have hsnoc : Finds source M (.sequence (before ++ [p])) first s.position (es.reverseAux reversed).reverse := by
      rw [List.reverseAux_eq, List.reverse_append, List.reverse_reverse]
      exact hbefore.snoc (hfound es rfl)
    exact sound_continueWith hmemory hsplit hlater hawaits hsnoc h
  | none =>
    rw [answer] at h
    split at h
    · obtain rfl := Except.ok.inj h
      exact sound_nothing hmemory hawaits
    · exact sound_attempt (s := s.goTo first) hmemory hlater hawaits h

theorem sound_repeated {first last : Nat} {before : List Pattern} {rounds round : List Part} {needed wanted : Bool}
    (hmemory : Remembers M s.memory) (hawaits : Awaits source M root s.stack (.pattern (.repeated wanted patterns)) first)
    (hpatterns : patterns = before ++ p :: rest) (hrounds : Finds source M (.rounds patterns) first last rounds.reverse)
    (hround : Finds source M (.sequence before) last start round.reverse)
    (hfound : ∀ ps, result = some ps → Finds source M (.pattern p) start s.position ps)
    (h : answer source result s (.repeated needed patterns last rounds round rest) = .ok next) :
    Sound source M root next := by
  cases result with
  | none =>
    obtain rfl := Except.ok.inj h
    refine ⟨hmemory, _, first, hawaits, fun ps hps => ?_⟩
    split at hps
    · cases hps
    · obtain rfl := Option.some.inj hps
      exact .repeated hrounds
  | some es =>
    have hsnoc : Finds source M (.sequence (before ++ [p])) last s.position (es.reverseAux round).reverse := by
      rw [List.reverseAux_eq, List.reverse_append, List.reverse_reverse]
      exact hround.snoc (hfound es rfl)
    cases rest with
    | cons q rest =>
      obtain rfl := Except.ok.inj h
      refine ⟨hmemory, .repeated hawaits ?_ hrounds hsnoc⟩
      rw [hpatterns, List.append_assoc, List.singleton_append]
    | nil =>
      -- The round is over, and the next one begins where it has ended.
      rw [← hpatterns] at hsnoc
      have hagain := hrounds.again hsnoc
      rw [← List.reverse_append] at hagain
      cases patterns with
      | nil => cases before <;> cases hpatterns
      | cons q rest =>
        obtain rfl := Except.ok.inj h
        exact ⟨hmemory, .repeated hawaits rfl hagain .nothing⟩

/-- A result that is handed to a frame keeps the machine sound. -/
theorem sound_answer (hM : Closed source M) (hmemory : Remembers M s.memory)
    (hawaits : Awaits source M root (f :: s.stack) goal start)
    (hfound : ∀ ps, result = some ps → Finds source M goal start s.position ps)
    (h : answer source result s f = .ok next) : Sound source M root next := by
  cases hawaits with
  | alternative hawaits hmem hbefore hlater => exact sound_alternative hmemory hawaits hmem hlater hbefore hfound h
  | repeated hawaits hpatterns hrounds hround => exact sound_repeated hmemory hawaits hpatterns hrounds hround hfound h
  | group hawaits =>
    obtain rfl := Except.ok.inj h
    exact ⟨hmemory, _, start, hawaits, fun ps hps => .group (hfound ps hps)⟩
  | grown hawaits =>
    obtain rfl := Except.ok.inj h
    exact ⟨hmemory, _, start, hawaits, hfound⟩
  | @rule _ _ r mistakes hawaits =>
    have hrule : ∀ ps, result = some ps → M r start s.position ps := fun ps hps => hM _ _ _ _ (hfound ps hps)
    obtain rfl := Except.ok.inj h
    split
    · exact ⟨hmemory.keep hrule, _, start, hawaits, fun ps hps => .rule (hrule ps hps)⟩
    · exact ⟨hmemory, _, start, hawaits, fun ps hps => .rule (hrule ps hps)⟩
  | @growing _ _ reach r best hawaits hbest =>
    have hrule : ∀ ps, result = some ps → M r start s.position ps := fun ps hps => hM _ _ _ _ (hfound ps hps)
    rw [answer] at h
    split at h
    · exact sound_grow (s := ((s.keep r start result).push (.growing r start result s.position)).goTo start)
        (hmemory.keep hrule) (.growing hawaits hrule) h
    · obtain rfl := Except.ok.inj h
      exact ⟨hmemory, _, start, hawaits, fun ps hps => .rule (hbest ps hps)⟩
  | optional hawaits =>
    cases result with
    | some es =>
      obtain rfl := Except.ok.inj h
      exact sound_found hmemory hawaits (.present (hfound es rfl))
    | none =>
      obtain rfl := Except.ok.inj h
      exact sound_found (s := s.goTo start) hmemory hawaits .absent
  | ahead hawaits =>
    obtain rfl := Except.ok.inj h
    refine ⟨hmemory, _, start, hawaits, fun ps hps => ?_⟩
    split at hps
    · obtain rfl := Option.some.inj hps
      exact .ahead
    · cases hps

/-- Whatever the machine finds for the rule that it was set to can be said of the rule. -/
theorem says_of_run (hM : Closed source M) {fuel position seen : Nat} (hnext : Sound source M root next)
    (h : run source fuel next = .ok ⟨some (ps, position), seen⟩) : M root 0 position ps := by
  induction fuel generalizing next with
  | zero =>
    rw [run] at h
    cases h
  | succ fuel ih =>
    cases next with
    | look p s =>
      rw [run] at h
      obtain ⟨next, hstep, h⟩ := bind_ok_iff.mp h
      exact ih (sound_look hnext.1 hnext.2 hstep) h
    | answer result s =>
      obtain ⟨hmemory, goal, start, hawaits, hfound⟩ := hnext
      rw [run] at h
      cases hstack : s.stack with
      | nil =>
        rw [hstack] at h hawaits
        have houtcome := congrArg Outcome.found (Except.ok.inj h)
        obtain ⟨found, rfl, hpair⟩ := Option.map_eq_some_iff.mp houtcome
        obtain ⟨rfl, rfl⟩ := Prod.mk.inj hpair
        cases hawaits with
        | bottom => exact (hfound _ rfl).of_rule
      | cons f stack =>
        rw [hstack] at h hawaits
        obtain ⟨next, hstep, h⟩ := bind_ok_iff.mp h
        exact ih (sound_answer (s := { s with stack := stack }) hM hmemory hawaits hfound hstep) h

theorem says_of_find (hM : Closed source M) {mistakes : Bool} {outcome : Outcome} {position seen : Nat}
    (h : find source root mistakes seen = .ok outcome) (hfound : outcome.found = some (ps, position)) :
    M root 0 position ps := by
  obtain ⟨found, last⟩ := outcome
  obtain rfl : found = some (ps, position) := hfound
  have hempty : Remembers M (Array.replicate (source.lexemes.size + 1) []) := by
    intro i l hl m hm
    obtain rfl : l = [] := (Array.mem_replicate.mp (Array.mem_of_getElem? hl)).2
    exact absurd hm List.not_mem_nil
  have hstart : Sound source M root (.look (.rule root)
    ⟨0, seen, baseLevel, mistakes, Array.replicate (source.lexemes.size + 1) [], []⟩) := ⟨hempty, .bottom⟩
  exact says_of_run hM hstart h

end LineScript.Arithmetic.Grammar
