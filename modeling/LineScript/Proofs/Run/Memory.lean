import LineScript.Proofs.Program.Growth
import LineScript.Proofs.Program.Hosts
import LineScript.Run.Memory

/-! What a worker has no room for. How long a filled text gets is found without making it, and a worker gives up at
    the line of a text that is too long. Until then it goes on as any process does. -/

namespace LineScript

variable {store : Store} {t inside line left right : Text} {pieces : List Piece} {limits : Limits}

/-! ### The length of a filled text -/

namespace Marker

variable {b : Marker × Value} {bound : List (Marker × Value)}

@[simp] theorem coming_cons : coming (b :: bound) = b.2.display.length + coming bound := rfl

@[simp] theorem going_cons : going (b :: bound) = b.1.stop - b.1.start + going bound := rfl

end Marker

/-- A bound marker goes and its value comes. -/
theorem ReadsAs.length_shown (h : ReadsAs t pieces) (store : Store) (position : Nat) :
    let bound := Marker.bound store (Marker.scan position 0 t)
    (pieces.flatMap (Piece.shown store)).length + Marker.going bound = t.length + Marker.coming bound := by
  induction h generalizing position with
  | nil => rfl
  | @marker name after pieces hname _ ih =>
    have hrest := ih (position + (Piece.written name).length)
    have hwritten := length_written name
    dsimp only at hrest ⊢
    rw [Marker.scan_written hname, Marker.bound, List.filterMap_cons, List.flatMap_cons, List.length_append,
      List.length_append, Piece.shown]
    cases hv : store.get? name with
    | none =>
      simp only [Option.map_none]
      rw [Marker.bound] at hrest
      omega
    | some v =>
      simp only [Option.map_some, Marker.coming_cons, Marker.going_cons]
      rw [Marker.bound] at hrest
      omega
  | @plain c rest pieces hnone _ ih =>
    have hrest := ih (position + 1)
    have hfirst : (Piece.shown store (.plain c)).length = 1 := rfl
    dsimp only at hrest ⊢
    rw [Marker.scan_plain hnone, List.flatMap_cons, List.length_append, List.length_cons, hfirst]
    omega

theorem length_interpolate (store : Store) (t : Text) : (interpolate store t).length = filledLength store t := by
  obtain ⟨pieces, h⟩ := readsAs_exists t
  have hlength := h.length_shown store 0
  rw [interpolate_pieces h, filledLength, Marker.all]
  dsimp only at hlength ⊢
  omega

/-! ### What a line fills -/

namespace Statement

theorem expression?_assignment (hkind : ofLine line = .assignment) (hsplit : line.splitOn (.char '=') = [left, right])
    (hname : (Text.trim left).isEmpty = false) : expression? line = some right := by
  rw [expression?, hkind, hsplit]
  exact if_neg (by rw [hname]; exact Bool.false_ne_true)

/-- A line that evaluates a quoted text first fills just that. -/
theorem filling_quoted (h : expression? line = some (enquoted inside)) :
    filling store line = (interpolate store inside).length := by
  rw [filling, h, Option.bind_some, trim_enquoted, unquoted?_enquoted, length_interpolate]
  rfl

theorem filling_repeating {k : Nat} (hkind : ofLine line = .assignment)
    (hsplit : line.splitOn (.char '=') = ["a".toText, enquoted inside])
    (hreads : ReadsAs inside (List.replicate k (.marker "a".toText))) (t : Text) :
    filling ⟨[("a".toText, .string t)]⟩ line = k * t.length := by
  have hbound : Store.get? ⟨[("a".toText, .string t)]⟩ "a".toText = some (.string t) := rfl
  rw [filling_quoted (expression?_assignment hkind hsplit (by decide)), interpolate_pieces hreads,
    List.flatMap_replicate, Piece.shown, hbound, List.length_flatten, List.map_replicate, List.sum_replicate_nat]
  rfl

end Statement

/-! ### In a worker -/

namespace Worker

open Program

/-- A worker gives up at the line of a text that it has no room for. -/
theorem gives_up {s : State} (hsteps : (s.steps : Int) + 1 ≤ limits.maxSteps)
    (h : memory ≤ Statement.filling s.store line) : GivesUp host limits s line .outOfMemory :=
  .of_givesOut hsteps (decide_eq_true h)

theorem holds {steps : Nat} (h : Statement.filling store line < memory) : host.givesOut steps store line = false :=
  decide_eq_false (Nat.not_le.mpr h)

/-- Up to a quarter of its memory, a worker makes a text four times as long. -/
theorem runLines_quadrupling {n : Nat} (h : (n : Int) < limits.maxSteps) (hroom : 4 ^ n < memory) :
    @runLines host limits 1 .initial (Text.lines (quadrupling n)) = .ok (quadrupled (n + 1) (4 ^ n)) := by
  refine @Program.runLines_quadrupling _ host _ h (holds (by decide)) fun k hk => holds ?_
  have hfills : Statement.filling (quadrupled (1 + k) (4 ^ k)).store quadruplingLine =
      4 * (List.replicate (4 ^ k) (CodePoint.char 'x')).length :=
    Statement.filling_repeating (by decide) (by decide) reads_quadrupling _
  calc Statement.filling (quadrupled (1 + k) (4 ^ k)).store quadruplingLine
      = 4 ^ (k + 1) := by rw [hfills, List.length_replicate, Nat.pow_succ']
    _ ≤ 4 ^ n := Nat.pow_le_pow_right (by decide) hk
    _ < memory := hroom

end Worker

end LineScript
