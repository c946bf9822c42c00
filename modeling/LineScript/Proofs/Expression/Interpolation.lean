import LineScript.Expression.Marker
import Mathlib.Data.List.TakeWhile

/-! Interpolation as one pass. A text is read once from the left as pieces, which are markers and single characters,
    and no store has a say in that. Interpolation, which fills in the markers from the right and in the text itself,
    puts down for each piece what it shows in the store: for as long as a marker waits, all that stands before it is
    still the text as it was. So what a value brings in is not read again. -/

namespace LineScript

/-- A piece of a text. -/
inductive Piece where
  | marker (name : Text)
  | plain (c : CodePoint)

namespace Piece

/-- How a marker is written. -/
def written (name : Text) : Text := "\\(".toText ++ name ++ ")".toText

/-- What a piece shows in a store: a marker whose name is bound shows the value, and any other piece itself. -/
def shown (store : Store) : Piece → Text
  | .marker name =>
    match store.get? name with
    | some v => v.display
    | none => written name
  | .plain c => [c]

end Piece

/-- A name that can stand in a marker: at least one character, none of them a closing parenthesis. -/
structure MarkerName (name : Text) : Prop where
  ne_nil : name ≠ []
  open_ended : CodePoint.char ')' ∉ name

/-- The pieces that a text is read as from the left: a marker where one begins, and otherwise one character. -/
inductive ReadsAs : Text → List Piece → Prop where
  | nil : ReadsAs [] []
  | marker {name after : Text} {pieces : List Piece} (hname : MarkerName name) (h : ReadsAs after pieces) :
    ReadsAs (Piece.written name ++ after) (.marker name :: pieces)
  | plain {c : CodePoint} {rest : Text} {pieces : List Piece}
    (hnone : ∀ name after, MarkerName name → c :: rest ≠ Piece.written name ++ after) (h : ReadsAs rest pieces) :
    ReadsAs (c :: rest) (.plain c :: pieces)

variable {t name after : Text} {store : Store} {pieces : List Piece}

/-! ### Markers at the beginning of a text -/

theorem written_append (name after : Text) :
    Piece.written name ++ after = .char '\\' :: .char '(' :: (name ++ .char ')' :: after) := by
  have hopening : "\\(".toText = [.char '\\', .char '('] := rfl
  have hclosing : ")".toText = [.char ')'] := rfl
  rw [Piece.written, hopening, hclosing]
  simp only [List.append_assoc, List.cons_append, List.nil_append]

theorem length_written (name : Text) : (Piece.written name).length = name.length + 3 := by
  have h := congrArg List.length (written_append name [])
  simpa using h

namespace Marker

theorem name?_written (h : MarkerName name) (after : Text) : name? (Piece.written name ++ after) = some name := by
  have hspan : (name ++ .char ')' :: after).takeWhile (fun c : CodePoint => c ≠ ')') = name := by
    have hall : ∀ c ∈ name, (decide (c ≠ .char ')')) = true := fun c hc =>
      decide_eq_true fun he => h.open_ended (he ▸ hc)
    rw [List.takeWhile_append_of_pos hall, List.takeWhile_cons_of_neg (by simp), List.append_nil]
  have hlength : name.length ≠ (name ++ CodePoint.char ')' :: after).length := by simp
  have hempty : name.isEmpty = false := by simpa using h.ne_nil
  rw [written_append, name?]
  simp only [hspan, hempty, hlength, decide_false, Bool.or_self, Bool.false_eq_true, if_false]

theorem eq_of_name? (h : name? t = some name) : MarkerName name ∧ ∃ after, t = Piece.written name ++ after := by
  unfold name? at h
  split at h
  · next rest =>
    dsimp only at h
    split at h
    · cases h
    · next hcond =>
      obtain rfl := Option.some.inj h
      simp only [Bool.or_eq_true, List.isEmpty_iff, decide_eq_true_eq, not_or] at hcond
      obtain ⟨hne, hlength⟩ := hcond
      have hopen : CodePoint.char ')' ∉ rest.takeWhile (fun c : CodePoint => c ≠ ')') := fun hmem => by
        simpa using List.mem_takeWhile_imp hmem
      refine ⟨⟨hne, hopen⟩, ?_⟩
      have hsplit := List.takeWhile_append_dropWhile (p := fun c : CodePoint => c ≠ ')') (l := rest)
      cases hdrop : rest.dropWhile (fun c : CodePoint => c ≠ ')') with
      | nil =>
        rw [hdrop, List.append_nil] at hsplit
        exact absurd (congrArg List.length hsplit) hlength
      | cons c after =>
        have hhead := List.head?_dropWhile_not (fun c : CodePoint => c ≠ ')') rest
        rw [hdrop] at hhead hsplit
        obtain rfl : c = .char ')' := by simpa using hhead
        exact ⟨after, by rw [written_append, hsplit]⟩
  · cases h

theorem name?_none (hnone : ∀ name after, MarkerName name → t ≠ Piece.written name ++ after) : name? t = none := by
  cases h : name? t with
  | none => rfl
  | some name =>
    obtain ⟨hname, after, ht⟩ := eq_of_name? h
    exact absurd ht (hnone name after hname)

/-! ### Filling from the right -/

theorem scan_skip (position : Nat) (skipped rest : Text) :
    scan position skipped.length (skipped ++ rest) = scan (position + skipped.length) 0 rest := by
  induction skipped generalizing position with
  | nil => rfl
  | cons c skipped ih =>
    rw [List.cons_append, List.length_cons, scan, ih, Nat.add_assoc, Nat.add_comm 1]

theorem scan_written (hname : MarkerName name) (position : Nat) (after : Text) :
    scan position 0 (Piece.written name ++ after) =
      ⟨position, position + (Piece.written name).length, name⟩ ::
        scan (position + (Piece.written name).length) 0 after := by
  have hread := name?_written hname after
  rw [written_append] at hread ⊢
  rw [scan, hread]
  have hskip := scan_skip (position + 1) (.char '(' :: (name ++ [.char ')'])) after
  simp only [List.length_cons, List.length_append, List.cons_append, List.append_assoc, List.nil_append,
    List.length_nil] at hskip
  simp only [length_written, hskip]
  rw [show position + 1 + (name.length + (0 + 1) + 1) = position + (name.length + 3) by omega,
    Nat.add_assoc position]

theorem scan_plain {c : CodePoint} {rest : Text}
    (hnone : ∀ name after, MarkerName name → c :: rest ≠ Piece.written name ++ after) (position : Nat) :
    scan position 0 (c :: rest) = scan (position + 1) 0 rest := by
  rw [scan, name?_none hnone]

/-- A marker behind some text is replaced by what it shows there, and nothing else changes. -/
theorem fill_written (store : Store) (before name after : Text) :
    fill store ⟨before.length, before.length + (Piece.written name).length, name⟩
        (before ++ Piece.written name ++ after) =
      before ++ Piece.shown store (.marker name) ++ after := by
  rw [fill, Piece.shown]
  cases store.get? name with
  | none => rfl
  | some v =>
    have htake : (before ++ Piece.written name ++ after).take before.length = before := by
      rw [List.append_assoc, List.take_left]
    have hdrop : (before ++ Piece.written name ++ after).drop (before.length + (Piece.written name).length) = after := by
      rw [← List.length_append, List.drop_left]
    simp only [htake, hdrop]

/-- The markers of what follows some text are filled in without touching that text. -/
theorem foldr_fill (h : ReadsAs t pieces) (store : Store) (before : Text) :
    (scan before.length 0 t).foldr (fill store) (before ++ t) = before ++ pieces.flatMap (Piece.shown store) := by
  induction h generalizing before with
  | nil => rfl
  | @marker name after pieces hname _ ih =>
    have hbehind := ih (before ++ Piece.written name)
    rw [List.length_append, List.append_assoc] at hbehind
    rw [scan_written hname, List.foldr_cons, hbehind, fill_written, List.flatMap_cons, List.append_assoc]
  | @plain c rest pieces hnone _ ih =>
    have hbehind := ih (before ++ [c])
    rw [List.length_append, List.append_assoc, List.append_assoc] at hbehind
    rw [scan_plain hnone, List.flatMap_cons]
    exact hbehind

end Marker

/-! ### Reading -/

theorem readsAs_exists (t : Text) : ∃ pieces, ReadsAs t pieces := by
  induction hn : t.length using Nat.strongRecOn generalizing t with
  | ind n ih =>
    cases t with
    | nil => exact ⟨[], .nil⟩
    | cons c rest =>
      by_cases hmarker : ∃ name after, MarkerName name ∧ c :: rest = Piece.written name ++ after
      · obtain ⟨name, after, hname, ht⟩ := hmarker
        have hshorter : after.length < n := by
          rw [← hn, ht, List.length_append, length_written]
          omega
        obtain ⟨pieces, h⟩ := ih after.length hshorter after rfl
        exact ⟨.marker name :: pieces, ht ▸ ReadsAs.marker hname h⟩
      · have hshorter : rest.length < n := by
          rw [← hn, List.length_cons]
          omega
        obtain ⟨pieces, h⟩ := ih rest.length hshorter rest rfl
        exact ⟨_, .plain (fun name after hname ht => hmarker ⟨name, after, hname, ht⟩) h⟩

theorem ReadsAs.written_inv (hname : MarkerName name) (h : ReadsAs (Piece.written name ++ after) pieces) :
    ∃ more, pieces = .marker name :: more ∧ ReadsAs after more := by
  generalize ht : Piece.written name ++ after = t at h
  cases h with
  | nil => exact absurd ht (by simp [written_append])
  | marker hname' h =>
    have hread := Marker.name?_written hname after
    rw [ht, Marker.name?_written hname'] at hread
    obtain rfl := Option.some.inj hread
    obtain rfl := List.append_cancel_left ht
    exact ⟨_, rfl, h⟩
  | plain hnone _ => exact absurd ht.symm (hnone name after hname)

theorem ReadsAs.unique {pieces' : List Piece} (h : ReadsAs t pieces) (h' : ReadsAs t pieces') : pieces' = pieces := by
  induction h generalizing pieces' with
  | nil =>
    generalize ht : ([] : Text) = t at h'
    cases h' with
    | nil => rfl
    | marker => exact absurd ht (by simp [written_append])
    | plain => cases ht
  | marker hname _ ih =>
    obtain ⟨more, rfl, hmore⟩ := h'.written_inv hname
    rw [ih hmore]
  | @plain c rest _ hnone _ ih =>
    generalize ht : c :: rest = t at h'
    cases h' with
    | nil => cases ht
    | marker hname _ => exact absurd ht (hnone _ _ hname)
    | plain _ h' =>
      obtain ⟨rfl, rfl⟩ := List.cons.inj ht
      rw [ih h']

/-- A marker stands in the text as it is written. -/
theorem ReadsAs.written_isInfix (h : ReadsAs t pieces) (hmem : .marker name ∈ pieces) : Piece.written name <:+: t := by
  induction h with
  | nil => cases hmem
  | @marker found after _ _ _ ih =>
    rcases List.mem_cons.mp hmem with hfound | hmem
    · rw [Piece.marker.inj hfound]
      exact (List.prefix_append _ _).isInfix
    · exact (ih hmem).trans (List.suffix_append _ _).isInfix
  | @plain c rest _ _ _ ih =>
    rcases List.mem_cons.mp hmem with hfound | hmem
    · cases hfound
    · exact (ih hmem).trans (List.suffix_cons c rest).isInfix

/-- A text is read from the left as pieces in exactly one way, whatever is bound, and interpolation puts down what
    each of them shows in the store, one after the other. -/
theorem interpolate_one_pass (t : Text) :
    ∃ pieces, (∀ pieces', ReadsAs t pieces' ↔ pieces' = pieces) ∧
      ∀ store, interpolate store t = pieces.flatMap (Piece.shown store) := by
  obtain ⟨pieces, h⟩ := readsAs_exists t
  refine ⟨pieces, fun pieces' => ⟨h.unique, fun he => he ▸ h⟩, fun store => ?_⟩
  exact Marker.foldr_fill h store []

/-- The value of one marker reads like another, a marker in a marker's name is part of it, and one is not closed. -/
example : interpolate ⟨[("a".toText, .string "\\(b)".toText), ("b".toText, .integer 2), ("\\(b".toText, .boolean true)]⟩
    "\\(a)\\(b) \\(\\(b) \\() \\(b".toText = "\\(b)2 true \\() \\(b".toText := by
  decide

end LineScript
