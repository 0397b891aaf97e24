import Mathlib.Data.List.Induction
import TagTemplate.Source.Position

/-!
# Stretches of a source

A source is cut by offsets: `slice` is the part between two of them, and a place is a `Position`
that stands in front of what is left (`At`). Three things live here:

* slices, and how they join;
* `deleting`, what remains of a part of a source when some stretches of it are taken out;
* `At`, with the line and the column of a place read off the characters before it.
-/

namespace TagTemplate

/-! ## Slices -/

/-- The part of a source between two offsets. -/
def slice (source : List Char) (start stop : Nat) : List Char :=
  (source.drop start).take (stop - start)

theorem slice_zero_length (source : List Char) : slice source 0 source.length = source := by
  simp [slice]

/-- Slices that meet join to one. -/
theorem slice_append_slice (source : List Char) {a b c : Nat} (hab : a ≤ b) (hbc : b ≤ c) :
    slice source a b ++ slice source b c = slice source a c := by
  have hdrop : source.drop b = (source.drop a).drop (b - a) := by
    rw [List.drop_drop]
    congr 1
    omega
  rw [slice, slice, slice, hdrop]
  rw [show c - a = (b - a) + (c - b) from by omega, List.take_add]

theorem length_slice {source : List Char} {a b : Nat} (h : b ≤ source.length) :
    (slice source a b).length = b - a := by
  rw [slice, List.length_take, List.length_drop]
  omega

/-! ## Deleting stretches -/

/-- A stretch of a source, from one offset up to another. -/
structure Stretch where
  start : Nat
  stop : Nat
deriving Repr, DecidableEq

/-- One of the stretches holds the character at an offset. -/
def covered (stretches : List Stretch) (i : Nat) : Bool :=
  stretches.any fun s => s.start ≤ i && i < s.stop

theorem covered_iff {stretches : List Stretch} {i : Nat} :
    covered stretches i = true ↔ ∃ s ∈ stretches, s.start ≤ i ∧ i < s.stop := by
  simp [covered]

theorem covered_append (ss ts : List Stretch) (i : Nat) :
    covered (ss ++ ts) i = (covered ss i || covered ts i) := by
  simp [covered]

/-- Stretches that lie elsewhere do not hold the character at an offset. -/
theorem covered_eq_false {stretches : List Stretch} {i : Nat}
    (h : ∀ s ∈ stretches, i < s.start ∨ s.stop ≤ i) : covered stretches i = false := by
  rw [Bool.eq_false_iff, ne_eq, covered_iff]
  rintro ⟨s, hs, h1, h2⟩
  have := h s hs
  omega

/-- What remains of characters, the first of them at an offset, when the stretches are taken
out. -/
def deleting (stretches : List Stretch) : (offset : Nat) → List Char → List Char
  | _, [] => []
  | i, c :: rest =>
    if covered stretches i then deleting stretches (i + 1) rest
    else c :: deleting stretches (i + 1) rest

theorem deleting_nil (i : Nat) (cs : List Char) : deleting [] i cs = cs := by
  induction cs generalizing i with
  | nil => rfl
  | cons c rest ih => simp [deleting, covered, ih]

theorem deleting_append (stretches : List Stretch) (i : Nat) (cs ds : List Char) :
    deleting stretches i (cs ++ ds) =
      deleting stretches i cs ++ deleting stretches (i + cs.length) ds := by
  induction cs generalizing i with
  | nil => rfl
  | cons c rest ih =>
    have hlen : i + (c :: rest).length = (i + 1) + rest.length := by
      rw [List.length_cons]
      omega
    rw [List.cons_append, deleting, deleting, hlen, ih]
    split <;> rfl

/-- What remains of slices that meet. -/
theorem deleting_slice (stretches : List Stretch) {source : List Char} {a b c : Nat} (hab : a ≤ b)
    (hbc : b ≤ c) (hc : c ≤ source.length) :
    deleting stretches a (slice source a c) =
      deleting stretches a (slice source a b) ++ deleting stretches b (slice source b c) := by
  have hlen : (slice source a b).length = b - a := length_slice (Nat.le_trans hbc hc)
  rw [← slice_append_slice source hab hbc, deleting_append, hlen]
  rw [show a + (b - a) = b from by omega]

/-- Only what is covered where the characters stand matters. -/
theorem deleting_congr {ss ts : List Stretch} {i : Nat} {cs : List Char}
    (h : ∀ j, i ≤ j → j < i + cs.length → covered ss j = covered ts j) :
    deleting ss i cs = deleting ts i cs := by
  induction cs generalizing i with
  | nil => rfl
  | cons c rest ih =>
    rw [List.length_cons] at h
    have hi : covered ss i = covered ts i := h i (by omega) (by omega)
    have hrest : deleting ss (i + 1) rest = deleting ts (i + 1) rest :=
      ih fun j h1 h2 => h j (by omega) (by omega)
    rw [deleting, deleting, hi, hrest]

/-- Nothing remains of characters exactly when they are covered throughout. -/
theorem deleting_eq_nil_iff {stretches : List Stretch} {i : Nat} {cs : List Char} :
    deleting stretches i cs = [] ↔
      ∀ j, i ≤ j → j < i + cs.length → covered stretches j = true := by
  induction cs generalizing i with
  | nil =>
    refine ⟨fun _ j h1 h2 => ?_, fun _ => rfl⟩
    rw [List.length_nil] at h2
    omega
  | cons c rest ih =>
    rw [deleting, List.length_cons]
    by_cases hi : covered stretches i = true
    · rw [if_pos hi, ih]
      refine ⟨fun h j h1 h2 => ?_, fun h j h1 h2 => h j (by omega) (by omega)⟩
      by_cases hj : j = i
      · rw [hj]
        exact hi
      · exact h j (by omega) (by omega)
    · rw [if_neg hi]
      refine ⟨fun h => (List.cons_ne_nil _ _ h).elim, fun h => ?_⟩
      exact absurd (h i (by omega) (by omega)) hi

/-! ## Places in a source -/

/-- Each line feed among the characters begins a line. -/
theorem advance_line (p : Position) (cs : List Char) :
    (p.advance cs).line = p.line + cs.count '\n' := by
  induction cs generalizing p with
  | nil => rfl
  | cons c rest ih =>
    rw [Position.advance_cons, ih, List.count_cons]
    unfold Position.step
    by_cases hc : c = '\n'
    · rw [if_pos hc]
      simp [hc]
      omega
    · rw [if_neg hc]
      simp [hc]

/-- The column counts the characters since the last line feed. -/
theorem advance_start_column (cs : List Char) :
    (Position.start.advance cs).column = 1 + (cs.reverse.takeWhile (· != '\n')).length := by
  induction cs using List.reverseRecOn with
  | nil => rfl
  | append_singleton before c ih =>
    rw [Position.advance_append, List.reverse_append]
    show ((Position.start.advance before).step c).column = _
    unfold Position.step
    by_cases hc : c = '\n'
    · simp [hc]
    · rw [if_neg hc]
      show (Position.start.advance before).column + 1 = _
      rw [ih]
      simp [hc]
      omega

/-- A place in a source, and what is left there. -/
def At (source : List Char) (pos : Position) (rest : List Char) : Prop :=
  ∃ before, source = before ++ rest ∧ pos = Position.start.advance before

namespace At

variable {source rest : List Char} {pos : Position}

theorem start (source : List Char) : At source .start source := ⟨[], rfl, rfl⟩

/-- Further on, less is left. -/
theorem advance {cs : List Char} (h : At source pos (cs ++ rest)) :
    At source (pos.advance cs) rest := by
  obtain ⟨before, hs, rfl⟩ := h
  exact ⟨before ++ cs, by rw [hs, List.append_assoc], (Position.advance_append _ _ _).symm⟩

theorem drop_offset (h : At source pos rest) : source.drop pos.offset = rest := by
  obtain ⟨before, rfl, rfl⟩ := h
  simp [Position.start]

theorem take_offset (h : At source pos rest) :
    pos = Position.start.advance (source.take pos.offset) := by
  obtain ⟨before, rfl, rfl⟩ := h
  simp [Position.start]

theorem offset_add_length (h : At source pos rest) : pos.offset + rest.length = source.length := by
  obtain ⟨before, rfl, rfl⟩ := h
  simp [Position.start]

theorem slice_eq {cs : List Char} (h : At source pos (cs ++ rest)) :
    slice source pos.offset (pos.advance cs).offset = cs := by
  rw [slice, h.drop_offset, Position.advance_offset]
  simp

/-- The line of a place, counted from 1. -/
theorem line_eq (h : At source pos rest) :
    pos.line = 1 + (source.take pos.offset).count '\n' := by
  have hl := congrArg Position.line h.take_offset
  rwa [advance_line] at hl

/-- The column of a place, counted from 1. -/
theorem column_eq (h : At source pos rest) :
    pos.column = 1 + ((source.take pos.offset).reverse.takeWhile (· != '\n')).length := by
  have hc := congrArg Position.column h.take_offset
  rwa [advance_start_column] at hc

end At

end TagTemplate
