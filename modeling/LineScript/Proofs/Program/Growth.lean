import LineScript.Proofs.Decimal.Width
import LineScript.Proofs.Expression.Literals
import LineScript.Proofs.Program.Counts
import LineScript.Proofs.Program.Variables
import LineScript.Service.Caps

/-! How long the texts of a run can get. No limit counts them: a marker costs four characters of a line, and it brings
    in a whole value. So every line has its own factor, by the markers in the text that it binds, and what a program
    can reach is found from its text alone. Lines with one marker add up, and lines with more of them multiply; the
    best that a line can do for its length is to make a text four times as long. -/

namespace LineScript

variable {limit : Int} {store : Store} {line left right t : Text} {v : Value} {pieces : List Piece} {width : Nat}

/-! ### Values that are shown -/

/-- Every value of the store is shown in at most so many characters. -/
def Store.Within (width : Nat) (s : Store) : Prop := ∀ b ∈ s.bindings, b.2.display.length ≤ width

/-- The width in which all values but texts are shown. -/
def plainWidth : Nat := 24

theorem length_ofInt_le {n : Int} (h : -(2 ^ 63) ≤ n ∧ n ≤ 2 ^ 63 - 1) : (Text.ofInt n).length ≤ plainWidth := by
  have hdigits {k : Nat} (hk : k < 10 ^ 19) : (Text.ofNat k).length ≤ 19 :=
    Decimal.length_ofNat_le_of_lt hk (by decide)
  cases n with
  | ofNat n =>
    rw [Int.ofNat_eq_natCast] at h
    exact (hdigits (by omega)).trans (by decide)
  | negSucc n => exact Nat.succ_le_succ ((hdigits (by omega)).trans (by decide))

/-- Only a text can be wider than that. -/
theorem Value.length_display_le (hv : v.Sound) (hwidth : plainWidth ≤ width)
    (htext : ∀ t, v = .string t → t.length ≤ width) : v.display.length ≤ width := by
  cases v with
  | integer n => exact (length_ofInt_le hv).trans hwidth
  | float x => exact (Decimal.length_write_le x).trans hwidth
  | boolean b => exact (show _ ≤ plainWidth by cases b <;> decide).trans hwidth
  | string t => exact htext t rfl

theorem Store.within_empty (width : Nat) : Store.empty.Within width := fun _ hb => absurd hb List.not_mem_nil

theorem Store.Within.mono {wider : Nat} (hs : store.Within width) (h : width ≤ wider) : store.Within wider :=
  fun b hb => (hs b hb).trans h

theorem Store.mem_of_get? {name : Text} (h : store.get? name = some v) : (name, v) ∈ store.bindings := by
  obtain ⟨before, after, hb, -⟩ := List.lookup_eq_some_iff.mp h
  exact hb ▸ List.mem_append_right _ List.mem_cons_self

theorem Store.Within.get {name : Text} (hs : store.Within width) (h : store.get? name = some v) :
    v.display.length ≤ width := hs (name, v) (Store.mem_of_get? h)

theorem Store.Within.set (hs : store.Within width) (name : Text) (hv : v.display.length ≤ width) :
    (store.set name v).Within width := by
  intro b hb
  rcases Store.mem_setIn hb with rfl | hb
  · exact hv
  · exact hs b hb

/-! ### Markers -/

theorem readsAs_replicate {name : Text} (hname : MarkerName name) (k : Nat) :
    ReadsAs (List.replicate k (Piece.written name)).flatten (List.replicate k (.marker name)) := by
  induction k with
  | zero => exact .nil
  | succ k ih => exact .marker hname ih

/-- A marker takes at least four characters. -/
theorem ReadsAs.four_mul_length_scan (h : ReadsAs t pieces) (position : Nat) :
    4 * (Marker.scan position 0 t).length ≤ t.length := by
  induction h generalizing position with
  | nil => exact Nat.le_refl _
  | @marker name after pieces hname _ ih =>
    have hrest := ih (position + (Piece.written name).length)
    have hne := List.length_pos_of_ne_nil hname.ne_nil
    have hwritten := length_written name
    rw [Marker.scan_written hname, List.length_cons, List.length_append]
    omega
  | @plain c rest pieces hnone _ ih =>
    have hrest := ih (position + 1)
    rw [Marker.scan_plain hnone, List.length_cons]
    omega

theorem four_mul_markers (t : Text) : 4 * (Marker.all t).length ≤ t.length := by
  obtain ⟨pieces, h⟩ := readsAs_exists t
  exact h.four_mul_length_scan 0

theorem Piece.length_shown_le (hs : store.Within width) {name : Text} (hname : MarkerName name) :
    (Piece.shown store (.marker name)).length ≤ (Piece.written name).length + (width - 4) := by
  rw [Piece.shown]
  cases hv : store.get? name with
  | none => exact Nat.le_add_right _ _
  | some v =>
    have hdisplay := hs.get hv
    have hne := List.length_pos_of_ne_nil hname.ne_nil
    rw [length_written]
    dsimp only
    omega

/-- Each marker of a text makes room for one value. -/
theorem ReadsAs.length_shown_le (h : ReadsAs t pieces) (hs : store.Within width) (position : Nat) :
    (pieces.flatMap (Piece.shown store)).length ≤ t.length + (Marker.scan position 0 t).length * (width - 4) := by
  induction h generalizing position with
  | nil => exact Nat.zero_le _
  | @marker name after pieces hname _ ih =>
    have hrest := ih (position + (Piece.written name).length)
    have hfirst := Piece.length_shown_le hs hname
    rw [Marker.scan_written hname, List.flatMap_cons, List.length_append, List.length_append, List.length_cons,
      Nat.succ_mul]
    omega
  | @plain c rest pieces hnone _ ih =>
    have hrest := ih (position + 1)
    have hfirst : (Piece.shown store (.plain c)).length = 1 := rfl
    rw [Marker.scan_plain hnone, List.flatMap_cons, List.length_append, List.length_cons, hfirst]
    omega

theorem length_interpolate_le (hs : store.Within width) (t : Text) :
    (interpolate store t).length ≤ t.length + (Marker.all t).length * (width - 4) := by
  obtain ⟨pieces, h⟩ := readsAs_exists t
  rw [interpolate_pieces h]
  exact h.length_shown_le hs 0

/-- The width of a value whose expression holds the text between quotes, in a store of the given width. -/
def filledWidth (width : Nat) : Option Text → Nat
  | none => width
  | some inside => max width (inside.length + (Marker.all inside).length * (width - 4))

theorem le_filledWidth (width : Nat) (inside? : Option Text) : width ≤ filledWidth width inside? := by
  cases inside? with
  | none => exact Nat.le_refl _
  | some inside => exact Nat.le_max_left _ _

/-- A value comes from the store, or is no text, or is what stands between quotes with its markers filled in. -/
theorem evaluate_width {expression : Text} (hs : store.Sound) (he : expression.OneLine) (hwidth : plainWidth ≤ width)
    (hw : store.Within width) (hv : evaluate store expression = .ok v) :
    v.display.length ≤ filledWidth width (unquoted? (Text.trim expression)) := by
  have hsound := evaluate_sound hs he hv
  have hwider := le_filledWidth width (unquoted? (Text.trim expression))
  rcases evaluate_cases hv with ⟨inside, hinside, rfl⟩ | ⟨b, rfl⟩ | ⟨n, -, rfl⟩ | ⟨x, -, rfl⟩ | hget | harith
  · rw [hinside]
    exact (length_interpolate_le hw inside).trans (Nat.le_max_right _ _)
  · exact (Value.length_display_le hsound hwidth nofun).trans hwider
  · exact (Value.length_display_le hsound hwidth nofun).trans hwider
  · exact (Value.length_display_le hsound hwidth nofun).trans hwider
  · exact (hw.get hget).trans hwider
  · obtain ⟨number, n, -, -, rfl⟩ := Arithmetic.evaluate_value harith
    exact (Value.length_display_le hsound hwidth nofun).trans hwider

/-! ### One line -/

namespace Statement

/-- The text between quotes that a line binds to a name. -/
def boundText? (line : Text) : Option Text :=
  match ofLine line, line.splitOn (.char '=') with
  | .declaration, [_ :: _, right] => unquoted? (Text.trim right)
  | .assignment, [_ :: _, right] => unquoted? (Text.trim right)
  | _, _ => none

theorem boundText?_of_binds (h : Binds (left ++ .char '=' :: right)) (hleft : .char '=' ∉ left)
    (hright : .char '=' ∉ right) (hne : left ≠ []) :
    boundText? (left ++ .char '=' :: right) = unquoted? (Text.trim right) := by
  obtain ⟨c, rest, rfl⟩ := List.exists_cons_of_ne_nil hne
  rw [boundText?, Text.splitOn_two hleft hright]
  by_cases hdeclares : Declares ((c :: rest) ++ .char '=' :: right)
  · rw [ofLine_declaration h.1 hdeclares]
  · rw [ofLine_assignment h.1 hdeclares (h.2.resolve_left hdeclares)]

/-- Beside a text that is not empty, the line has a name, a `=` and two quotes. -/
theorem length_boundText? {inside : Text} (h : boundText? line = some inside) (hne : inside ≠ []) :
    inside.length + 4 ≤ line.length := by
  have hparts : ∃ c rest right, line.splitOn (.char '=') = [c :: rest, right] ∧
      unquoted? (Text.trim right) = some inside := by
    unfold boundText? at h
    split at h
    · next c rest right _ hsplit => exact ⟨c, rest, right, hsplit, h⟩
    · next c rest right _ hsplit => exact ⟨c, rest, right, hsplit, h⟩
    · cases h
  obtain ⟨c, rest, right, hsplit, hquoted⟩ := hparts
  obtain ⟨rfl, -, -⟩ := Text.eq_of_splitOn hsplit
  have hshorter := (Text.trim_sublist right).length_le
  have hpos := List.length_pos_of_ne_nil hne
  unfold unquoted? at hquoted
  split at hquoted
  · obtain rfl := Option.some.inj hquoted
    simp only [List.length_dropLast, List.length_drop, List.length_append, List.length_cons] at hpos ⊢
    omega
  · cases hquoted

theorem Target.left_ne_nil {name : Text} (h : Target line left name) (hne : name ≠ []) : left ≠ [] := by
  rintro rfl
  exact hne (List.infix_nil.mp h.isInfix)

/-- The width of the values after a line, from their width before it. -/
def widened (width : Nat) (line : Text) : Nat := filledWidth width (boundText? line)

theorem le_widened (width : Nat) (line : Text) : width ≤ widened width line := le_filledWidth width _

/-- A line leaves no value wider than that. -/
theorem run_within (hs : store.Sound) (hl : line.OneLine) (hwidth : plainWidth ≤ width) (hw : store.Within width)
    {effect : Effect} (h : run limit store line = .ok effect) :
    (effect.store store).Within (widened width line) := by
  have hkept := hw.mono (le_widened width line)
  have hleaves := run_leaves limit store line
  rw [h] at hleaves
  cases hleaves with
  | printed | called | passed => exact hkept
  | @bound left right name v after hbinds hline hleft hright hname hne hv hset =>
    subst hline
    have honeLine : right.OneLine := (Text.over_cons.mp (Text.over_append.mp hl).2).2
    refine hkept.set name ?_
    rw [widened, boundText?_of_binds hbinds hleft hright (hname.left_ne_nil hne)]
    exact evaluate_width hs honeLine hwidth hw hv

/-! ### What a line can do for its length -/

/-- What grows by a ratio at most grows in its powers by the power of the ratio. -/
theorem pow_le_of_ratio {a b c e x y : Nat} (ha : 0 < a) (hratio : a * x ≤ b * y) (hfactor : b ^ e ≤ c * a ^ e) :
    x ^ e ≤ c * y ^ e := by
  refine Nat.le_of_mul_le_mul_left ?_ (Nat.pow_pos ha : 0 < a ^ e)
  calc a ^ e * x ^ e = (a * x) ^ e := (Nat.mul_pow a x e).symm
    _ ≤ (b * y) ^ e := Nat.pow_le_pow_left hratio e
    _ = b ^ e * y ^ e := Nat.mul_pow b y e
    _ ≤ c * a ^ e * y ^ e := Nat.mul_le_mul_right _ hfactor
    _ = a ^ e * (c * y ^ e) := by ring

theorem pow_sum_le (r : Nat) : (24 + r) ^ 21 ≤ 24 ^ 21 * 4 ^ r := by
  induction r with
  | zero => exact Nat.le_refl _
  | succ r ih =>
    have hratio : 24 * (24 + (r + 1)) ≤ 25 * (24 + r) := by omega
    calc (24 + (r + 1)) ^ 21 ≤ 4 * (24 + r) ^ 21 := pow_le_of_ratio (by decide) hratio (by decide +kernel)
      _ ≤ 4 * (24 ^ 21 * 4 ^ r) := Nat.mul_le_mul_left 4 ih
      _ = 24 ^ 21 * 4 ^ (r + 1) := by ring

/-- Four markers are the best number of them for the length of their line. -/
theorem pow_markers_le (k : Nat) : (max k 1) ^ 21 ≤ 4 ^ (4 * k + 5) := by
  rcases Nat.lt_or_ge k 4 with hk | hk
  · have hfew : ∀ k < 4, (max k 1) ^ 21 ≤ 4 ^ (4 * k + 5) := by decide +kernel
    exact hfew k hk
  · rw [Nat.max_eq_left (by omega)]
    induction k, hk using Nat.le_induction with
    | base => exact Nat.le_refl _
    | succ k hk ih =>
      have hratio : 4 * (k + 1) ≤ 5 * k := by omega
      calc (k + 1) ^ 21 ≤ 4 ^ 4 * k ^ 21 := pow_le_of_ratio (by decide) hratio (by decide +kernel)
        _ ≤ 4 ^ 4 * 4 ^ (4 * k + 5) := Nat.mul_le_mul_left _ ih
        _ = 4 ^ (4 * (k + 1) + 5) := by ring

/-- A text with `k` markers and `r` characters beside the least that they take, in a store of the given width. -/
theorem pow_filled_le (hwidth : 24 ≤ width) (k r : Nat) :
    (r + k * width) ^ 21 ≤ width ^ 21 * 4 ^ (4 * k + r + 5) := by
  have hratio : 24 * (r + k * width) ≤ width * (max k 1 * (24 + r)) := by
    rcases Nat.eq_zero_or_pos k with rfl | hk
    · have hplain : 24 * r ≤ width * r := Nat.mul_le_mul_right r hwidth
      rw [Nat.max_eq_right (by decide)]
      linarith
    · have hmarkers : 24 * r ≤ width * (k * r) := Nat.mul_le_mul hwidth (Nat.le_mul_of_pos_left r hk)
      rw [Nat.max_eq_left hk]
      linarith
  refine Nat.le_of_mul_le_mul_left ?_ (by decide : 0 < 24 ^ 21)
  calc 24 ^ 21 * (r + k * width) ^ 21 = (24 * (r + k * width)) ^ 21 := (Nat.mul_pow ..).symm
    _ ≤ (width * (max k 1 * (24 + r))) ^ 21 := Nat.pow_le_pow_left hratio 21
    _ = width ^ 21 * (max k 1 ^ 21 * (24 + r) ^ 21) := by rw [Nat.mul_pow, Nat.mul_pow]
    _ ≤ width ^ 21 * (4 ^ (4 * k + 5) * (24 ^ 21 * 4 ^ r)) :=
      Nat.mul_le_mul_left _ (Nat.mul_le_mul (pow_markers_le k) (pow_sum_le r))
    _ = 24 ^ 21 * (width ^ 21 * 4 ^ (4 * k + r + 5)) := by ring

/-- A line of 20 characters and its end make a text four times as long at most, and so on in proportion. -/
theorem widened_pow_le (hwidth : plainWidth ≤ width) (line : Text) :
    widened width line ^ 21 ≤ width ^ 21 * 4 ^ (line.length + 1) := by
  have hkept : width ^ 21 ≤ width ^ 21 * 4 ^ (line.length + 1) :=
    Nat.le_mul_of_pos_right _ (Nat.pow_pos (by decide))
  rw [widened]
  cases hbound : boundText? line with
  | none => exact hkept
  | some inside =>
    rcases Nat.le_total (inside.length + (Marker.all inside).length * (width - 4)) width with hless | hmore
    · rw [filledWidth, Nat.max_eq_left hless]
      exact hkept
    · rw [filledWidth, Nat.max_eq_right hmore]
      have hne : inside ≠ [] := by
        rintro rfl
        have hnone : (Marker.all []).length = 0 := rfl
        rw [hnone, Nat.zero_mul] at hmore
        exact absurd (hwidth.trans hmore) (by decide)
      have hmarkers := four_mul_markers inside
      have hlength := length_boundText? hbound hne
      have hwidth : 24 ≤ width := hwidth
      obtain ⟨r, hr⟩ := Nat.le.dest hmarkers
      have hroom : inside.length + (Marker.all inside).length * (width - 4) = r + (Marker.all inside).length * width := by
        obtain ⟨more, rfl⟩ := Nat.le.dest (show 4 ≤ width by omega)
        rw [Nat.add_sub_cancel_left, ← hr]
        ring
      rw [hroom]
      refine (pow_filled_le hwidth _ r).trans (Nat.mul_le_mul_left _ (Nat.pow_le_pow_right (by decide) ?_))
      omega

/-- A line with one marker adds no more than its own length. -/
theorem widened_add_le (hone : ∀ inside, boundText? line = some inside → (Marker.all inside).length ≤ 1) (width : Nat) :
    widened width line ≤ width + line.length := by
  rw [widened]
  cases hbound : boundText? line with
  | none => exact Nat.le_add_right _ _
  | some inside =>
    have hmarkers : (Marker.all inside).length * (width - 4) ≤ 1 * (width - 4) :=
      Nat.mul_le_mul_right _ (hone inside hbound)
    rw [filledWidth]
    by_cases hnil : inside = []
    · subst hnil
      have hnone : (Marker.all []).length = 0 := rfl
      rw [hnone]
      simp
    · have hlength := length_boundText? hbound hnil
      omega

end Statement

/-! ### Many lines -/

namespace Program

open Statement (widened boundText?)

variable {limits : Limits} {number : Nat} {ls : List Text} {s u : State} {code : Text}

/-- The width of the values after some lines, from their width before them. -/
def widenedBy (width : Nat) (ls : List Text) : Nat := ls.foldl (fun w raw => widened w (Text.trim raw)) width

theorem le_widenedBy (width : Nat) (ls : List Text) : width ≤ widenedBy width ls := by
  induction ls generalizing width with
  | nil => exact Nat.le_refl _
  | cons raw ls ih => exact (Statement.le_widened width (Text.trim raw)).trans (ih _)

/-- A run over the lines leaves no value wider than that. -/
theorem runLines_within (hls : ∀ l ∈ ls, l.OneLine) (hs : s.store.Sound) (hwidth : plainWidth ≤ width)
    (hw : s.store.Within width) (h : runLines limits number s ls = .ok u) :
    u.store.Within (widenedBy width ls) := by
  induction ls generalizing s number width with
  | nil =>
    obtain rfl := Except.ok.inj h
    exact hw
  | cons raw ls ih =>
    obtain ⟨hraw, hls⟩ := List.forall_mem_cons.mp hls
    have hwider := Statement.le_widened width (Text.trim raw)
    cases hn : s.next limits number raw with
    | error stop => rw [runLines_cons_error hn] at h; cases h
    | ok middle =>
      rw [runLines_cons_ok hn] at h
      rcases State.next_ok hn with ⟨-, rfl⟩ | ⟨-, hst⟩
      · exact ih hls hs (hwidth.trans hwider) (hw.mono hwider) h
      · obtain ⟨effect, hstep⟩ := State.stepped hst
        have hline : (Text.trim raw).OneLine := hraw.sublist (Text.trim_sublist raw)
        have hsound : middle.store.Sound := hstep.store ▸ Statement.run_sound hs hline hstep.runs
        have hwithin : middle.store.Within (widened width (Text.trim raw)) :=
          hstep.store ▸ Statement.run_within hs hline hwidth hw hstep.runs
        exact ih hls hsound (hwidth.trans hwider) hwithin h

/-- In proportion to their lengths, lines multiply the width. -/
theorem widenedBy_pow_le (hwidth : plainWidth ≤ width) (ls : List Text) :
    widenedBy width ls ^ 21 ≤ width ^ 21 * 4 ^ charsOf ls := by
  induction ls generalizing width with
  | nil => exact Nat.le_mul_of_pos_right _ (by decide)
  | cons raw ls ih =>
    have hwider := Statement.le_widened width (Text.trim raw)
    have hshorter := (Text.trim_sublist raw).length_le
    calc widenedBy width (raw :: ls) ^ 21
        ≤ widened width (Text.trim raw) ^ 21 * 4 ^ charsOf ls := ih (hwidth.trans hwider)
      _ ≤ (width ^ 21 * 4 ^ ((Text.trim raw).length + 1)) * 4 ^ charsOf ls :=
        Nat.mul_le_mul_right _ (Statement.widened_pow_le hwidth _)
      _ ≤ (width ^ 21 * 4 ^ (raw.length + 1)) * 4 ^ charsOf ls :=
        Nat.mul_le_mul_right _ (Nat.mul_le_mul_left _ (Nat.pow_le_pow_right (by decide) (by omega)))
      _ = width ^ 21 * 4 ^ charsOf (raw :: ls) := by
        rw [charsOf, charsOf, List.map_cons, List.sum_cons, Nat.mul_assoc, ← Nat.pow_add]

/-- The lines bind no text with more than one marker. -/
def SingleMarkers (ls : List Text) : Prop :=
  ∀ raw ∈ ls, ∀ inside, boundText? (Text.trim raw) = some inside → (Marker.all inside).length ≤ 1

/-- Lines with one marker add up. -/
theorem widenedBy_add_le (hone : SingleMarkers ls) (width : Nat) :
    widenedBy width ls ≤ width + (ls.map List.length).sum := by
  induction ls generalizing width with
  | nil => exact Nat.le_refl _
  | cons raw ls ih =>
    obtain ⟨hraw, hls⟩ := List.forall_mem_cons.mp hone
    have hfirst := Statement.widened_add_le hraw width
    have hrest := ih hls (widened width (Text.trim raw))
    have hshorter := (Text.trim_sublist raw).length_le
    rw [List.map_cons, List.sum_cons]
    exact hrest.trans (by omega)

theorem widenedBy_take_le (width : Nat) (ls : List Text) (k : Nat) : widenedBy width (ls.take k) ≤ widenedBy width ls := by
  conv_rhs => rw [← List.take_append_drop k ls]
  rw [widenedBy, widenedBy, List.foldl_append]
  exact le_widenedBy _ _

theorem charsOf_lines_le (code : Text) : charsOf (Text.lines code) ≤ code.length + 1 := by
  fun_induction Text.lines code with
  | case1 => exact Nat.zero_le _
  | case2 rest ih =>
    simp only [charsOf, List.map_cons, List.sum_cons, List.length_cons, List.length_nil] at ih ⊢
    omega
  | case3 c rest _ _ ih =>
    simp only [charsOf, List.map_cons, List.sum_cons, List.length_cons, List.length_nil] at ih ⊢
    omega
  | case4 c rest _ _ _ => simp [charsOf]
  | case5 c rest _ _ line more hrest ih =>
    rw [hrest] at ih
    simp only [charsOf, List.map_cons, List.sum_cons, List.length_cons] at ih ⊢
    omega

theorem sum_length_lines_le (code : Text) : ((Text.lines code).map List.length).sum ≤ code.length := by
  have hchars := charsOf_lines_le code
  cases hls : Text.lines code with
  | nil => exact Nat.zero_le _
  | cons l ls =>
    have hsplit : charsOf (l :: ls) = ((l :: ls).map List.length).sum + (ls.length + 1) := by
      simp [charsOf, List.sum_map_add]
      omega
    rw [hls, hsplit] at hchars
    omega

/-- Wherever a run is, its store is within the width that the lines so far give. -/
theorem within_throughout {k : Nat} (h : runLines limits 1 .initial ((Text.lines code).take k) = .ok s) :
    s.store.Within (widenedBy plainWidth (Text.lines code)) := by
  have honeLine : ∀ l ∈ (Text.lines code).take k, l.OneLine := fun l hl => oneLine_of_mem_lines (List.mem_of_mem_take hl)
  have hwithin := runLines_within honeLine Store.sound_empty (Nat.le_refl _) (Store.within_empty _) h
  exact hwithin.mono (widenedBy_take_le _ _ k)

/-! ### The fastest growth -/

/-- The line that makes a text four times as long. -/
def quadruplingLine : Text := "a=\"\\(a)\\(a)\\(a)\\(a)\"".toText

/-- A program that makes a text of one character four times as long again and again. -/
def quadrupling (n : Nat) : Text := Text.ofLines ("a=\"x\"".toText :: List.replicate n quadruplingLine)

/-- The state of the program when the text has so many characters. -/
def quadrupled (steps length : Nat) : State :=
  ⟨⟨[("a".toText, .string (List.replicate length (.char 'x')))]⟩, steps, 0, []⟩

theorem length_quadrupling (n : Nat) : (quadrupling n).length = 21 * n + 6 := by
  have hline : quadruplingLine.length = 20 := rfl
  have hfeed : "\n".toText.length = 1 := rfl
  have hfirst : "a=\"x\"".toText.length = 5 := rfl
  rw [quadrupling, Text.ofLines, List.flatMap_cons, List.length_append, List.length_append, List.length_flatMap]
  simp [hline, hfeed, hfirst]
  omega

theorem lines_quadrupling (n : Nat) :
    Text.lines (quadrupling n) = "a=\"x\"".toText :: List.replicate n quadruplingLine := by
  refine Text.lines_ofLines fun l hl => ?_
  rcases List.mem_cons.mp hl with rfl | hl
  · decide
  · rw [List.eq_of_mem_replicate hl]
    decide

/-- A line that binds `a` to so many markers of `a` makes the text that `a` holds so many times as long. -/
theorem run_repeating [Host] {line inside : Text} {k : Nat} (hkind : Statement.ofLine line = .assignment)
    (hsplit : line.splitOn (.char '=') = ["a".toText, enquoted inside])
    (hreads : ReadsAs inside (List.replicate k (.marker "a".toText))) (limit : Int) (t : Text) :
    Statement.run limit ⟨[("a".toText, .string t)]⟩ line =
      .ok (.binds "a".toText (.string (List.replicate k t).flatten)) := by
  have hbound : Store.get? ⟨[("a".toText, .string t)]⟩ "a".toText = some (.string t) := rfl
  have hfilled : interpolate ⟨[("a".toText, .string t)]⟩ inside = (List.replicate k t).flatten := by
    rw [interpolate_pieces hreads, List.flatMap_replicate, Piece.shown, hbound]
    rfl
  rw [Statement.run, hkind]
  dsimp only
  rw [Statement.runAssignment, hsplit]
  dsimp only
  rw [evaluate_enquoted, hfilled]
  rfl

/-- Such a line counts as one step, and nothing is shown. -/
theorem next_repeating [Host] {line inside : Text} {k steps length : Nat} (hkind : Statement.ofLine line = .assignment)
    (hsplit : line.splitOn (.char '=') = ["a".toText, enquoted inside])
    (hreads : ReadsAs inside (List.replicate k (.marker "a".toText))) (htrim : Text.trim line = line)
    (hdispatched : isSkipped line = false) (h : (steps : Int) + 1 ≤ limits.maxSteps)
    (holds : Host.givesOut steps (quadrupled steps length).store line = false) :
    (quadrupled steps length).next limits number line = .ok (quadrupled (steps + 1) (k * length)) := by
  have hwithin : ¬ limits.maxSteps < ((quadrupled steps length).steps : Int) + 1 := Int.not_lt.mpr h
  rw [State.next_dispatched (htrim.symm ▸ hdispatched), htrim, State.step, if_neg hwithin, quadrupled,
    if_neg (by rw [← Bool.not_eq_true] at holds; exact holds), run_repeating hkind hsplit hreads,
    List.flatten_replicate_replicate]
  rfl

theorem markerName_a : MarkerName "a".toText := ⟨by decide, by decide⟩

theorem reads_quadrupling : ReadsAs "\\(a)\\(a)\\(a)\\(a)".toText (List.replicate 4 (.marker "a".toText)) :=
  readsAs_replicate markerName_a 4

theorem runLines_quadruplingLines [Host] {steps length n : Nat} (h : (steps : Int) + n ≤ limits.maxSteps)
    (holds : ∀ k < n,
      Host.givesOut (steps + k) (quadrupled (steps + k) (4 ^ k * length)).store quadruplingLine = false) :
    runLines limits number (quadrupled steps length) (List.replicate n quadruplingLine) =
      .ok (quadrupled (steps + n) (4 ^ n * length)) := by
  induction n generalizing steps length number with
  | zero => rw [Nat.pow_zero, Nat.one_mul]; rfl
  | succ n ih =>
    have hgrown (k : Nat) : 4 ^ k * (4 * length) = 4 ^ (k + 1) * length := by ring
    have hfirst : (quadrupled steps length).next limits number quadruplingLine =
        .ok (quadrupled (steps + 1) (4 * length)) :=
      next_repeating (by decide) (by decide) reads_quadrupling (by decide) (by decide) (by omega)
        (by simpa using holds 0 (Nat.succ_pos n))
    have hrest : ∀ k < n, Host.givesOut (steps + 1 + k) (quadrupled (steps + 1 + k) (4 ^ k * (4 * length))).store
        quadruplingLine = false := fun k hk => by
      rw [hgrown, Nat.add_assoc, Nat.add_comm 1 k]
      exact holds (k + 1) (Nat.succ_lt_succ hk)
    rw [List.replicate_succ, runLines_cons_ok hfirst, ih (by omega) hrest, hgrown, Nat.add_assoc, Nat.add_comm 1 n]

/-- Where the memory suffices, the program ends with a text of `4 ^ n` characters, and nothing is shown. -/
theorem runLines_quadrupling [Host] {n : Nat} (h : (n : Int) < limits.maxSteps)
    (hstart : Host.givesOut 0 .empty "a=\"x\"".toText = false)
    (holds : ∀ k < n, Host.givesOut (1 + k) (quadrupled (1 + k) (4 ^ k)).store quadruplingLine = false) :
    runLines limits 1 .initial (Text.lines (quadrupling n)) = .ok (quadrupled (n + 1) (4 ^ n)) := by
  have hfirst : State.next limits 1 .initial "a=\"x\"".toText = .ok (quadrupled 1 1) := by
    have hrun : Statement.run limits.maxFactorial .empty "a=\"x\"".toText =
        .ok (.binds "a".toText (.string "x".toText)) := rfl
    have hwithin : ¬ limits.maxSteps < ((0 : Nat) : Int) + 1 := by omega
    rw [State.next_dispatched (by decide), show Text.trim "a=\"x\"".toText = "a=\"x\"".toText by decide, State.step,
      State.initial, if_neg hwithin, if_neg (by rw [hstart]; exact Bool.false_ne_true), hrun]
    rfl
  rw [lines_quadrupling, runLines_cons_ok hfirst,
    runLines_quadruplingLines (by omega) fun k hk => by rw [Nat.mul_one]; exact holds k hk, Nat.mul_one,
    Nat.add_comm 1 n]

/-- Under the limits of the service too, a text outgrows its program and all that the program could show. -/
theorem quadrupling_outgrows_output :
    ∃ caps u t, Service.cap [] = .ok caps ∧
      runLines caps.limits 1 .initial (Text.lines (quadrupling 7)) = .ok u ∧ u.shown = [] ∧
      ("a".toText, .string t) ∈ u.store.bindings ∧
      ((quadrupling 7).length : Int) + caps.limits.maxOutput < t.length := by
  refine ⟨⟨.default, none⟩, _, _, rfl, runLines_quadrupling (by decide) rfl fun _ _ => rfl, rfl, List.mem_cons_self, ?_⟩
  rw [length_quadrupling, List.length_replicate]
  decide

/-- The lines of a program bound the texts of its run, whatever the limits: they cannot grow faster than fourfold for
    21 characters, and where each line has one marker at most, they grow by its characters at most. No limit bounds
    them below that, for there are programs that show nothing and do grow so. -/
theorem stored_texts_bounded (limits : Limits) :
    (∀ (code : Text) (k : Nat) (s : State) (name t : Text),
      runLines limits 1 .initial ((Text.lines code).take k) = .ok s → (name, .string t) ∈ s.store.bindings →
        t.length ^ 21 ≤ plainWidth ^ 21 * 4 ^ (code.length + 1) ∧
        (SingleMarkers (Text.lines code) → t.length ≤ code.length + plainWidth)) ∧
    ∀ n : Nat, (n : Int) < limits.maxSteps →
      (quadrupling n).length = 21 * n + 6 ∧
      ∃ s, runLines limits 1 .initial (Text.lines (quadrupling n)) = .ok s ∧ s.shown = [] ∧
        s.store.get? "a".toText = some (.string (List.replicate (4 ^ n) (.char 'x'))) := by
  constructor
  · intro code k s name t hrun hbound
    have hwidth : t.length ≤ widenedBy plainWidth (Text.lines code) := within_throughout hrun _ hbound
    constructor
    · calc t.length ^ 21 ≤ widenedBy plainWidth (Text.lines code) ^ 21 := Nat.pow_le_pow_left hwidth 21
        _ ≤ plainWidth ^ 21 * 4 ^ charsOf (Text.lines code) := widenedBy_pow_le (Nat.le_refl _) _
        _ ≤ plainWidth ^ 21 * 4 ^ (code.length + 1) :=
          Nat.mul_le_mul_left _ (Nat.pow_le_pow_right (by decide) (charsOf_lines_le code))
    · intro hone
      have hsum := widenedBy_add_le hone plainWidth
      have hlines := sum_length_lines_le code
      omega
  · intro n hn
    exact ⟨length_quadrupling n, quadrupled (n + 1) (4 ^ n), runLines_quadrupling hn rfl fun _ _ => rfl, rfl, rfl⟩

/-- Where no more than one character may be shown, a program of 15 characters stores a text of 18. -/
theorem stored_texts_bounded_shown_number :
    let code := "x=1e15\na=\"\\(x)\"".toText
    ∃ s u t, runLines ⟨10, 1, 20⟩ 1 .initial ((Text.lines code).take 2) = .ok s ∧
      ("a".toText, .string t) ∈ s.store.bindings ∧ code.length = 15 ∧ t.length = 18 ∧
      t.length ^ 21 ≤ plainWidth ^ 21 * 4 ^ 16 ∧ t.length ≤ 15 + plainWidth ∧
      runLines ⟨10, 1, 20⟩ 1 .initial (Text.lines (quadrupling 9)) = .ok u ∧ u.shown = [] ∧
      u.store.get? "a".toText = some (.string (List.replicate (4 ^ 9) (.char 'x'))) := by
  intro code
  have hget : ((runLines ⟨10, 1, 20⟩ 1 .initial ((Text.lines code).take 2)).toOption.bind
      fun s => s.store.get? "a".toText) = some (.string "1000000000000000.0".toText) := by decide +kernel
  cases hrun : runLines ⟨10, 1, 20⟩ 1 .initial ((Text.lines code).take 2) with
  | error stop => rw [hrun] at hget; cases hget
  | ok s =>
    rw [hrun] at hget
    have hbound : ("a".toText, .string "1000000000000000.0".toText) ∈ s.store.bindings := Store.mem_of_get? hget
    have hlines : Text.lines code = ["x=1e15".toText, "a=\"\\(x)\"".toText] := by decide
    have hone : SingleMarkers (Text.lines code) := by
      rw [hlines]
      intro raw hraw inside hinside
      rcases List.mem_pair.mp hraw with rfl | rfl
      · have hnone : boundText? (Text.trim "x=1e15".toText) = none := by decide
        rw [hnone] at hinside
        cases hinside
      · obtain rfl : "\\(x)".toText = inside := Option.some.inj (hinside ▸ by decide)
        decide
    obtain ⟨hgrowth, hsum⟩ := (stored_texts_bounded ⟨10, 1, 20⟩).1 code 2 s _ _ hrun hbound
    obtain ⟨-, u, hruns, hshown, htext⟩ := (stored_texts_bounded ⟨10, 1, 20⟩).2 9 (by decide)
    exact ⟨s, u, _, rfl, hbound, by decide, by decide, hgrowth, hsum hone, hruns, hshown, htext⟩

end Program

end LineScript
