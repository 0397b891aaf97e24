import Mathlib.Data.List.TakeWhile
import TagTemplate.Proofs.Source.Stretch
import TagTemplate.Text.Split

/-!
# Runs between delimiters

A text is split into pieces at every delimiter, so a piece may be empty. The pieces that are not
are the runs of the text: the longest stretches without a delimiter (`mem_runs_iff`), from left to
right (`pairwise_runs`).
-/

namespace TagTemplate.Text

variable {isDelimiter : Char → Bool} {cs piece rest : List Char} {d : Char}

/-! ## Pieces -/

theorem splitChars_of_plain (h : ∀ c ∈ cs, isDelimiter c = false) :
    splitChars isDelimiter cs = [cs] := by
  induction cs with
  | nil => rfl
  | cons c rest ih =>
    have hc : ¬isDelimiter c = true := by
      rw [h c (List.mem_cons_self ..)]
      decide
    rw [splitChars, if_neg hc, ih fun c hmem => h c (List.mem_cons_of_mem _ hmem)]

/-- The first piece goes up to the first delimiter. -/
theorem splitChars_append_cons (h : ∀ c ∈ piece, isDelimiter c = false)
    (hd : isDelimiter d = true) (rest : List Char) :
    splitChars isDelimiter (piece ++ d :: rest) = piece :: splitChars isDelimiter rest := by
  induction piece with
  | nil => rw [List.nil_append, splitChars, if_pos hd]
  | cons c piece ih =>
    have hc : ¬isDelimiter c = true := by
      rw [h c (List.mem_cons_self ..)]
      decide
    rw [List.cons_append, splitChars, if_neg hc, ih fun c hmem => h c (List.mem_cons_of_mem _ hmem)]

/-- Induction on a text, by its first piece. -/
@[elab_as_elim]
theorem pieces_induction (isDelimiter : Char → Bool) {motive : List Char → Prop}
    (last : ∀ cs, (∀ c ∈ cs, isDelimiter c = false) → motive cs)
    (piece : ∀ piece d rest, (∀ c ∈ piece, isDelimiter c = false) → isDelimiter d = true →
      motive rest → motive (piece ++ d :: rest)) (cs : List Char) : motive cs := by
  induction hlength : cs.length using Nat.strongRecOn generalizing cs with
  | ind length ih =>
    have hsplit := List.takeWhile_append_dropWhile (p := (!isDelimiter ·)) (l := cs)
    have hplain : ∀ c ∈ cs.takeWhile (!isDelimiter ·), isDelimiter c = false := by
      intro c hc
      simpa using List.mem_takeWhile_imp hc
    cases hrest : cs.dropWhile (!isDelimiter ·) with
    | nil =>
      rw [hrest, List.append_nil] at hsplit
      rw [← hsplit]
      exact last _ hplain
    | cons d rest =>
      have hd : isDelimiter d = true := by
        have hne : cs.dropWhile (!isDelimiter ·) ≠ [] := by
          rw [hrest]
          exact List.cons_ne_nil d rest
        simpa [hrest] using List.head_dropWhile_not (!isDelimiter ·) hne
      rw [hrest] at hsplit
      have hshorter : rest.length < length := by
        rw [← hlength, ← hsplit, List.length_append, List.length_cons]
        omega
      rw [← hsplit]
      exact piece _ d rest hplain hd (ih rest.length hshorter rest rfl)

/-- A delimiter parts the pieces before it from those after it. -/
theorem splitChars_append (hd : isDelimiter d = true) (before after : List Char) :
    splitChars isDelimiter (before ++ d :: after) =
      splitChars isDelimiter before ++ splitChars isDelimiter after := by
  induction before using pieces_induction isDelimiter with
  | last before hplain =>
    rw [splitChars_append_cons hplain hd, splitChars_of_plain hplain, List.singleton_append]
  | piece piece first before hplain hfirst ih =>
    rw [List.append_assoc, List.cons_append, splitChars_append_cons hplain hfirst,
      splitChars_append_cons hplain hfirst, ih, List.cons_append]

/-- The pieces together are the text without the delimiters. -/
theorem flatten_splitChars (isDelimiter : Char → Bool) (cs : List Char) :
    (splitChars isDelimiter cs).flatten = cs.filter (!isDelimiter ·) := by
  induction cs using pieces_induction isDelimiter with
  | last cs hplain =>
    have hall : ∀ c ∈ cs, (!isDelimiter c) = true := fun c hc => by rw [hplain c hc]; rfl
    rw [splitChars_of_plain hplain, List.flatten_singleton, List.filter_eq_self.mpr hall]
  | piece piece d rest hplain hd ih =>
    have hall : ∀ c ∈ piece, (!isDelimiter c) = true := fun c hc => by rw [hplain c hc]; rfl
    rw [splitChars_append_cons hplain hd, List.flatten_cons, ih, List.filter_append,
      List.filter_eq_self.mpr hall, List.filter_cons_of_neg (by rw [hd]; decide)]

/-! ## Runs -/

/-- Whether the character at a place is a delimiter, if there is one. -/
def delimits? (isDelimiter : Char → Bool) (cs : List Char) (place : Nat) : Option Bool :=
  cs[place]?.map isDelimiter

/-- A stretch of a text, not empty, in which no delimiter is, and with a delimiter or an end of the
text on both sides. -/
structure IsRun (isDelimiter : Char → Bool) (cs : List Char) (start stop : Nat) : Prop where
  nonempty : start < stop
  inside : ∀ place, start ≤ place → place < stop → delimits? isDelimiter cs place = some false
  left : ∀ place, place + 1 = start → delimits? isDelimiter cs place = some true
  right : delimits? isDelimiter cs stop ≠ some false

/-- The run that a piece is: none if it is empty. -/
def ofPiece (piece : List Char) : List (Nat × Nat) :=
  if piece = [] then [] else [(0, piece.length)]

/-- A run of what comes behind some characters. -/
def shift (places : Nat) (run : Nat × Nat) : Nat × Nat := (places + run.1, places + run.2)

/-- Where the pieces of a text are that are not empty. -/
def runsOfPieces : List (List Char) → List (Nat × Nat)
  | [] => []
  | piece :: rest => ofPiece piece ++ (runsOfPieces rest).map (shift (piece.length + 1))

/-- The runs of a text. -/
def runs (isDelimiter : Char → Bool) (cs : List Char) : List (Nat × Nat) :=
  runsOfPieces (splitChars isDelimiter cs)

theorem runs_of_plain (hplain : ∀ c ∈ cs, isDelimiter c = false) :
    runs isDelimiter cs = ofPiece cs := by
  rw [runs, splitChars_of_plain hplain, runsOfPieces, runsOfPieces, List.map_nil, List.append_nil]

theorem runs_append_cons (hplain : ∀ c ∈ piece, isDelimiter c = false)
    (hd : isDelimiter d = true) (rest : List Char) :
    runs isDelimiter (piece ++ d :: rest) =
      ofPiece piece ++ (runs isDelimiter rest).map (shift (piece.length + 1)) := by
  rw [runs, splitChars_append_cons hplain hd, runsOfPieces, runs]

theorem mem_ofPiece {run : Nat × Nat} :
    run ∈ ofPiece piece ↔ piece ≠ [] ∧ run = (0, piece.length) := by
  unfold ofPiece
  split
  · next h => simp [h]
  · next h => simp [h]

/-! ## The runs are the longest stretches -/

theorem delimits?_of_plain (hplain : ∀ c ∈ piece, isDelimiter c = false) {place : Nat}
    (h : place < piece.length) (rest : List Char) :
    delimits? isDelimiter (piece ++ rest) place = some false := by
  rw [delimits?, List.getElem?_append_left h, List.getElem?_eq_getElem h, Option.map_some,
    hplain _ (List.getElem_mem h)]

theorem delimits?_length (hd : isDelimiter d = true) (piece rest : List Char) :
    delimits? isDelimiter (piece ++ d :: rest) piece.length = some true := by
  rw [delimits?, List.getElem?_append_right (Nat.le_refl _), Nat.sub_self, List.getElem?_cons_zero,
    Option.map_some, hd]

theorem delimits?_rest (piece rest : List Char) (d : Char) (place : Nat) :
    delimits? isDelimiter (piece ++ d :: rest) (piece.length + 1 + place) =
      delimits? isDelimiter rest place := by
  have hindex : piece.length + 1 + place - piece.length = place + 1 := by omega
  rw [delimits?, List.getElem?_append_right (by omega), hindex, List.getElem?_cons_succ, delimits?]

theorem delimits?_end (cs : List Char) : delimits? isDelimiter cs cs.length = none := by
  rw [delimits?, List.getElem?_eq_none (Nat.le_refl _), Option.map_none]

/-- A run that begins in a stretch without delimiters begins and ends with it, if a delimiter or the
end of the text comes behind. -/
theorem IsRun.eq_of_plain {start stop : Nat} (hplain : ∀ c ∈ piece, isDelimiter c = false)
    (hbehind : delimits? isDelimiter (piece ++ rest) piece.length ≠ some false)
    (h : IsRun isDelimiter (piece ++ rest) start stop) (hstart : start < piece.length) :
    start = 0 ∧ stop = piece.length := by
  constructor
  · by_contra hzero
    have hleft := h.left (start - 1) (by omega)
    rw [delimits?_of_plain hplain (by omega)] at hleft
    cases hleft
  · rcases Nat.lt_trichotomy stop piece.length with hlt | heq | hgt
    · exact absurd (delimits?_of_plain hplain hlt rest) h.right
    · exact heq
    · exact absurd (h.inside piece.length (Nat.le_of_lt hstart) hgt) hbehind

/-- And it is one. -/
theorem isRun_piece (hplain : ∀ c ∈ piece, isDelimiter c = false) (hpiece : piece ≠ [])
    (hbehind : delimits? isDelimiter (piece ++ rest) piece.length ≠ some false) :
    IsRun isDelimiter (piece ++ rest) 0 piece.length where
  nonempty := List.length_pos_iff.mpr hpiece
  inside _ _ h := delimits?_of_plain hplain h rest
  left _ h := nomatch h
  right := hbehind

/-- A text without delimiters is one run, if it is not empty. -/
theorem isRun_of_plain (hplain : ∀ c ∈ cs, isDelimiter c = false) {start stop : Nat} :
    IsRun isDelimiter cs start stop ↔ cs ≠ [] ∧ start = 0 ∧ stop = cs.length := by
  have hbehind : delimits? isDelimiter (cs ++ []) cs.length ≠ some false := by
    rw [List.append_nil, delimits?_end]
    nofun
  constructor
  · intro h
    have hinside := h.inside start (Nat.le_refl _) h.nonempty
    have hstart : start < cs.length := by
      by_contra hge
      rw [delimits?, List.getElem?_eq_none (Nat.not_lt.mp hge)] at hinside
      cases hinside
    rw [← List.append_nil cs] at h
    exact ⟨List.ne_nil_of_length_pos (Nat.zero_lt_of_lt hstart),
      h.eq_of_plain hplain hbehind hstart⟩
  · rintro ⟨hne, rfl, rfl⟩
    have h := isRun_piece hplain hne hbehind
    rwa [List.append_nil] at h

/-- The runs of a text are its first piece, if that is not empty, and those of the text behind the
first delimiter. -/
theorem isRun_append_cons (hplain : ∀ c ∈ piece, isDelimiter c = false)
    (hd : isDelimiter d = true) {start stop : Nat} :
    IsRun isDelimiter (piece ++ d :: rest) start stop ↔
      (piece ≠ [] ∧ start = 0 ∧ stop = piece.length) ∨
      ∃ start' stop', start = piece.length + 1 + start' ∧ stop = piece.length + 1 + stop' ∧
        IsRun isDelimiter rest start' stop' := by
  have hmark := delimits?_length hd piece rest
  have hbehind : delimits? isDelimiter (piece ++ d :: rest) piece.length ≠ some false := by
    rw [hmark]
    decide
  constructor
  · intro h
    rcases Nat.lt_trichotomy start piece.length with hlt | rfl | hgt
    · have hpiece : piece ≠ [] := List.ne_nil_of_length_pos (Nat.zero_lt_of_lt hlt)
      exact .inl ⟨hpiece, h.eq_of_plain hplain hbehind hlt⟩
    · -- the delimiter itself is in no run
      have hinside := h.inside piece.length (Nat.le_refl _) h.nonempty
      exact absurd hinside hbehind
    · obtain ⟨start', rfl⟩ := Nat.exists_eq_add_of_le hgt
      have hle : piece.length + 1 ≤ stop := by
        have := h.nonempty
        omega
      obtain ⟨stop', rfl⟩ := Nat.exists_eq_add_of_le hle
      refine .inr ⟨start', stop', rfl, rfl, ?_, fun place hstart hstop => ?_,
        fun place hplace => ?_, ?_⟩
      · have := h.nonempty
        omega
      · rw [← delimits?_rest piece rest d]
        exact h.inside _ (by omega) (by omega)
      · rw [← delimits?_rest piece rest d]
        exact h.left _ (by omega)
      · rw [← delimits?_rest piece rest d]
        exact h.right
  · rintro (⟨hpiece, rfl, rfl⟩ | ⟨start', stop', rfl, rfl, h⟩)
    · exact isRun_piece hplain hpiece hbehind
    · refine ⟨?_, fun place hstart hstop => ?_, fun place hplace => ?_, ?_⟩
      · have := h.nonempty
        omega
      · obtain ⟨inner, rfl⟩ : ∃ inner, place = piece.length + 1 + inner :=
          Nat.exists_eq_add_of_le (by omega)
        rw [delimits?_rest]
        exact h.inside inner (by omega) (by omega)
      · rcases Nat.eq_zero_or_pos start' with rfl | hpos
        · -- the delimiter stands in front of what begins behind it
          obtain rfl : place = piece.length := by omega
          exact hmark
        · obtain ⟨inner, rfl⟩ : ∃ inner, place = piece.length + 1 + inner :=
            Nat.exists_eq_add_of_le (by omega)
          rw [delimits?_rest]
          exact h.left inner (by omega)
      · rw [delimits?_rest]
        exact h.right

/-- The runs are listed, and nothing else is. -/
theorem mem_runs_iff {start stop : Nat} :
    (start, stop) ∈ runs isDelimiter cs ↔ IsRun isDelimiter cs start stop := by
  induction cs using pieces_induction isDelimiter generalizing start stop with
  | last cs hplain =>
    rw [runs_of_plain hplain, mem_ofPiece, isRun_of_plain hplain, Prod.mk.injEq]
  | piece piece d rest hplain hd ih =>
    rw [runs_append_cons hplain hd, isRun_append_cons hplain hd, List.mem_append, mem_ofPiece,
      Prod.mk.injEq]
    refine or_congr Iff.rfl ?_
    constructor
    · intro h
      obtain ⟨⟨start', stop'⟩, hmem, hshift⟩ := List.mem_map.mp h
      cases hshift
      exact ⟨start', stop', rfl, rfl, ih.mp hmem⟩
    · rintro ⟨start', stop', rfl, rfl, h⟩
      exact List.mem_map_of_mem (ih.mpr h)

/-- They are listed from left to right. -/
theorem pairwise_runs (isDelimiter : Char → Bool) (cs : List Char) :
    (runs isDelimiter cs).Pairwise fun run later => run.2 < later.1 := by
  have hone : ∀ piece : List Char, (ofPiece piece).Pairwise fun run later => run.2 < later.1 := by
    intro piece
    unfold ofPiece
    split
    · exact .nil
    · exact List.pairwise_singleton _ _
  induction cs using pieces_induction isDelimiter with
  | last cs hplain =>
    rw [runs_of_plain hplain]
    exact hone cs
  | piece piece d rest hplain hd ih =>
    rw [runs_append_cons hplain hd, List.pairwise_append, List.pairwise_map]
    refine ⟨hone piece, ih.imp fun h => ?_, fun run hrun later hlater => ?_⟩
    · exact Nat.add_lt_add_left h _
    · obtain ⟨-, rfl⟩ := mem_ofPiece.mp hrun
      obtain ⟨inner, -, rfl⟩ := List.mem_map.mp hlater
      exact Nat.lt_add_right inner.1 (Nat.lt_succ_self piece.length)

theorem map_slice_ofPiece (piece rest : List Char) :
    (ofPiece piece).map (fun run => slice (piece ++ rest) run.1 run.2) =
      [piece].filter (!·.isEmpty) := by
  cases piece with
  | nil => rfl
  | cons c piece => simp [ofPiece, slice]

/-- They are the pieces that are not empty. -/
theorem map_slice_runs (isDelimiter : Char → Bool) (cs : List Char) :
    (runs isDelimiter cs).map (fun run => slice cs run.1 run.2) =
      (splitChars isDelimiter cs).filter (!·.isEmpty) := by
  induction cs using pieces_induction isDelimiter with
  | last cs hplain =>
    have hslice := map_slice_ofPiece cs []
    rw [List.append_nil] at hslice
    rw [runs_of_plain hplain, splitChars_of_plain hplain, hslice]
  | piece piece d rest hplain hd ih =>
    have hbehind : ∀ run : Nat × Nat, slice (piece ++ d :: rest) (piece.length + 1 + run.1)
        (piece.length + 1 + run.2) = slice rest run.1 run.2 := by
      intro run
      have hdrop : (piece ++ d :: rest).drop (piece.length + 1 + run.1) = rest.drop run.1 := by
        rw [Nat.add_assoc, Nat.add_comm 1, List.drop_length_add_append, List.drop_succ_cons]
      rw [slice, hdrop, Nat.add_sub_add_left, slice]
    have hpieces : piece :: splitChars isDelimiter rest =
        [piece] ++ splitChars isDelimiter rest := rfl
    rw [runs_append_cons hplain hd, splitChars_append_cons hplain hd, List.map_append,
      map_slice_ofPiece, List.map_map, hpieces, List.filter_append, ← ih]
    exact congrArg _ (List.map_congr_left fun run _ => hbehind run)

end TagTemplate.Text
