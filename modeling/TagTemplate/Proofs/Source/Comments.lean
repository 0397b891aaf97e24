import TagTemplate.Proofs.Source.Stretch
import TagTemplate.Source.Scanner

/-!
# Comments in text

A comment is a stretch between an opening mark and its partner, with all marks in between balanced.
The scanner looks for comments only where it reads text. `textPart_of_textRun` says what a text run
makes of the part of the source that it passes: there are comments in it, the text is what remains
when they are taken out, and nothing that remains begins with an opening mark, so no comment was
overlooked.
-/

namespace TagTemplate

/-! ## Balanced comments -/

/-- The mark that opens a comment. -/
def openMark : List Char := ['<', '!', '-', '-', '-']

/-- The mark that closes a comment. -/
def closeMark : List Char := ['-', '-', '-', '>']

/-- The rest of the outermost of `depth` comments that are open, read from left to right: the marks
in it open and close comments, no two of them overlap, and the last one closes the outermost. -/
inductive CommentTail : (depth : Nat) → List Char → Prop
  | closed : CommentTail 0 []
  | opens {depth : Nat} {rest : List Char} (h : CommentTail (depth + 2) rest) :
    CommentTail (depth + 1) (openMark ++ rest)
  | closes {depth : Nat} {rest : List Char} (h : CommentTail depth rest) :
    CommentTail (depth + 1) (closeMark ++ rest)
  | other {depth : Nat} {c : Char} {rest : List Char} (hopen : ¬ openMark <+: c :: rest)
    (hclose : ¬ closeMark <+: c :: rest) (h : CommentTail (depth + 1) rest) :
    CommentTail (depth + 1) (c :: rest)

/-- A balanced comment: an opening mark, and all up to its partner. -/
def IsComment (cs : List Char) : Prop := ∃ tail, cs = openMark ++ tail ∧ CommentTail 1 tail

/-- What the scanner passes over is the rest of the comments that are open. -/
theorem commentTail_of_closeComment {depth : Nat} {cs inside after : List Char}
    (h : closeComment depth cs = some (inside, after)) : CommentTail depth inside := by
  fun_induction closeComment depth cs generalizing inside with
  | case1 =>
    cases h
    exact .closed
  | case2 => cases h
  | case3 depth rest ih =>
    obtain ⟨⟨i, a⟩, hi, he⟩ := Option.map_eq_some_iff.mp h
    cases he
    exact .opens (ih hi)
  | case4 depth rest ih =>
    obtain ⟨⟨i, a⟩, hi, he⟩ := Option.map_eq_some_iff.mp h
    cases he
    exact .closes (ih hi)
  | case5 depth c rest hopen hclose ih =>
    obtain ⟨⟨i, a⟩, hi, he⟩ := Option.map_eq_some_iff.mp h
    cases he
    -- a mark at the head of the comment would be one at the head of all that is left
    have hrest := closeComment_append hi
    refine .other ?_ ?_ (ih hi)
    · rintro ⟨tail, ht⟩
      cases ht
      exact hopen _ rfl hrest.symm
    · rintro ⟨tail, ht⟩
      cases ht
      exact hclose _ rfl hrest.symm

/-- A comment begins with an opening mark. -/
theorem eq_of_lead_comment {c : Char} {rest inside : List Char}
    (h : lead c rest = .comment inside) : c :: rest = openMark ++ inside := by
  unfold lead at h
  split at h
  · next hc =>
    split at h
    · cases h
      rw [hc]
      rfl
    · split at h <;> cases h
  · split at h
    · split at h <;> cases h
    · cases h

/-- A literal character does not begin an opening mark. -/
theorem not_openMark_of_literal {c : Char} {rest : List Char} (h : lead c rest = .literal) :
    ¬ openMark <+: c :: rest := by
  rintro ⟨tail, ht⟩
  cases ht
  cases h

/-! ## Comments between two offsets -/

/-- Stretches between two offsets of a source, in order and apart, each of them a comment. -/
structure CommentsIn (source : List Char) (a b : Nat) (comments : List Stretch) : Prop where
  le : a ≤ b
  inside : ∀ c ∈ comments, a ≤ c.start ∧ c.start < c.stop ∧ c.stop ≤ b
  ordered : comments.Pairwise fun c d => c.stop ≤ d.start
  balanced : ∀ c ∈ comments, IsComment (slice source c.start c.stop)

namespace CommentsIn

variable {source : List Char} {a b c : Nat} {C D : List Stretch}

theorem nil (source : List Char) (h : a ≤ b) : CommentsIn source a b [] :=
  ⟨h, by simp, .nil, by simp⟩

theorem append (hC : CommentsIn source a b C) (hD : CommentsIn source b c D) :
    CommentsIn source a c (C ++ D) where
  le := Nat.le_trans hC.le hD.le
  inside s hs := by
    have hab := hC.le
    have hbc := hD.le
    rcases List.mem_append.mp hs with h | h
    · have := hC.inside s h
      omega
    · have := hD.inside s h
      omega
  ordered := by
    rw [List.pairwise_append]
    refine ⟨hC.ordered, hD.ordered, fun s hs t ht => ?_⟩
    have h1 := hC.inside s hs
    have h2 := hD.inside t ht
    omega
  balanced s hs := by
    rcases List.mem_append.mp hs with h | h
    · exact hC.balanced s h
    · exact hD.balanced s h

/-- Nothing is covered before the part in which the comments lie. -/
theorem not_covered_of_lt (h : CommentsIn source a b C) {i : Nat} (hi : i < a) :
    covered C i = false :=
  covered_eq_false fun s hs => by
    have := h.inside s hs
    omega

/-- Nothing is covered after the part in which the comments lie. -/
theorem not_covered_of_le (h : CommentsIn source a b C) {i : Nat} (hi : b ≤ i) :
    covered C i = false :=
  covered_eq_false fun s hs => by
    have := h.inside s hs
    omega

/-- Comments further on cover nothing here. -/
theorem covered_append_left (hD : CommentsIn source b c D) {i : Nat} (hi : i < b) :
    covered (C ++ D) i = covered C i := by
  rw [covered_append, hD.not_covered_of_lt hi, Bool.or_false]

/-- Comments before cover nothing here. -/
theorem covered_append_right (hC : CommentsIn source a b C) {i : Nat} (hi : b ≤ i) :
    covered (C ++ D) i = covered D i := by
  rw [covered_append, hC.not_covered_of_le hi, Bool.false_or]

/-- What remains of two parts that meet is what remains of each. -/
theorem deleting_append_slice (hC : CommentsIn source a b C) (hD : CommentsIn source b c D)
    (hc : c ≤ source.length) :
    deleting (C ++ D) a (slice source a c) =
      deleting C a (slice source a b) ++ deleting D b (slice source b c) := by
  have hlen : (slice source a b).length = b - a := length_slice (Nat.le_trans hD.le hc)
  have hab := hC.le
  rw [deleting_slice _ hab hD.le hc]
  congr 1
  · exact deleting_congr fun j h1 h2 => hD.covered_append_left (by omega)
  · exact deleting_congr fun j h1 h2 => hC.covered_append_right h1

end CommentsIn

/-! ## Text runs -/

/-- A part of a source that is text and comments: what lies in none of the comments does not begin
another. -/
structure TextPart (source : List Char) (a b : Nat) (comments : List Stretch) : Prop
    extends CommentsIn source a b comments where
  unmarked : ∀ i, a ≤ i → i < b → covered comments i = false → ¬ openMark <+: source.drop i

namespace TextPart

variable {source rest : List Char} {pos : Position} {a b c : Nat} {C D : List Stretch}

theorem nil (source : List Char) (a : Nat) : TextPart source a a [] where
  toCommentsIn := .nil source (Nat.le_refl a)
  unmarked i h1 h2 := by omega

theorem append (hC : TextPart source a b C) (hD : TextPart source b c D) :
    TextPart source a c (C ++ D) where
  toCommentsIn := hC.toCommentsIn.append hD.toCommentsIn
  unmarked i h1 h2 hi := by
    by_cases hb : i < b
    · rw [hD.covered_append_left hb] at hi
      exact hC.unmarked i h1 hb hi
    · rw [hC.covered_append_right (by omega)] at hi
      exact hD.unmarked i (by omega) h2 hi

/-- A literal character is a part without comments. -/
theorem literal {ch : Char} (hat : At source pos (ch :: rest)) (hl : lead ch rest = .literal) :
    TextPart source pos.offset (pos.step ch).offset [] where
  toCommentsIn := .nil source (by rw [Position.step_offset]; omega)
  unmarked i h1 h2 _ := by
    rw [Position.step_offset] at h2
    rw [show i = pos.offset from by omega, hat.drop_offset]
    exact not_openMark_of_literal hl

/-- A comment is a part that is covered throughout. -/
theorem comment {cs : List Char} (hat : At source pos (cs ++ rest)) (hc : IsComment cs) :
    TextPart source pos.offset (pos.advance cs).offset
      [⟨pos.offset, (pos.advance cs).offset⟩] where
  le := by
    rw [Position.advance_offset]
    omega
  inside := by
    obtain ⟨tail, rfl, _⟩ := hc
    simp [openMark]
    omega
  ordered := List.pairwise_singleton _ _
  balanced s hs := by
    rw [List.mem_singleton] at hs
    rw [hs, hat.slice_eq]
    exact hc
  unmarked i h1 h2 hi := by
    simp [covered] at hi
    simp at h2
    omega

end TextPart

/-- The first character that remains of a part of a source stands at `place`, with nothing but
comments before it. -/
structure FirstKept (source : List Char) (a b : Nat) (comments : List Stretch)
    (place : Position) : Prop where
  le : a ≤ place.offset
  lt : place.offset < b
  kept : covered comments place.offset = false
  before : ∀ i, a ≤ i → i < place.offset → covered comments i = true
  at_place : At source place (source.drop place.offset)

/-- A literal character is the first that remains of the part that begins with it. -/
theorem FirstKept.literal {source rest : List Char} {pos : Position} {ch : Char} {b : Nat}
    {C : List Stretch} (hat : At source pos (ch :: rest))
    (hC : CommentsIn source (pos.step ch).offset b C) : FirstKept source pos.offset b C pos := by
  have hstep : (pos.step ch).offset = pos.offset + 1 := Position.step_offset pos ch
  have hle := hC.le
  refine ⟨Nat.le_refl _, by omega, hC.not_covered_of_lt (by omega), fun i h1 h2 => by omega, ?_⟩
  rw [hat.drop_offset]
  exact hat

/-- A comment in front of a part leaves the first character that remains. -/
theorem FirstKept.afterComment {source : List Char} {a m b : Nat} {C : List Stretch}
    {place : Position} (h : FirstKept source m b C place) (hle : a ≤ m) :
    FirstKept source a b ([⟨a, m⟩] ++ C) place where
  le := Nat.le_trans hle h.le
  lt := h.lt
  kept := by
    have hoff : covered [⟨a, m⟩] place.offset = false :=
      covered_eq_false (List.forall_mem_singleton.mpr (Or.inr h.le))
    rw [covered_append, hoff, h.kept]
    rfl
  before i h1 h2 := by
    rw [covered_append, Bool.or_eq_true]
    by_cases hi : i < m
    · exact Or.inl (covered_iff.mpr ⟨_, List.mem_singleton_self _, h1, hi⟩)
    · exact Or.inr (h.before i (Nat.le_of_not_lt hi) h2)
  at_place := h.at_place

/-- Nothing remains of a comment. -/
theorem deleting_comment (pos : Position) (cs : List Char) :
    deleting [⟨pos.offset, (pos.advance cs).offset⟩] pos.offset cs = [] := by
  rw [deleting_eq_nil_iff]
  intro j h1 h2
  rw [← Position.advance_offset] at h2
  exact covered_iff.mpr ⟨_, List.mem_singleton_self _, h1, h2⟩

/-- What a text run makes of the part of a source that it passes: its text is what remains without
the comments. The place that it tells is that of the first character it keeps. -/
theorem textPart_of_textRun {source kept rest : List Char} {start pos : Position} {run : TextRun}
    (hat : At source pos rest) (h : textRun kept start rest pos = .ok run) :
    ∃ comments, TextPart source pos.offset run.stop.offset comments ∧
      At source run.stop run.rest ∧
      run.text = kept.reverse ++
        deleting comments pos.offset (slice source pos.offset run.stop.offset) ∧
      (kept ≠ [] → run.start = start) ∧
      (kept = [] → run.text ≠ [] →
        FirstKept source pos.offset run.stop.offset comments run.start) := by
  -- Along the run: it ends, keeps a character, or passes over a comment.
  fun_induction textRun kept start rest pos with
  | case1 kept start pos =>
    cases h
    refine ⟨[], .nil source _, hat, by simp [slice, deleting], fun _ => rfl, ?_⟩
    rintro rfl hne
    exact absurd rfl hne
  | case2 kept start pos c rest markup hl =>
    cases h
    refine ⟨[], .nil source _, hat, by simp [slice, deleting], fun _ => rfl, ?_⟩
    rintro rfl hne
    exact absurd rfl hne
  | case3 kept start pos c rest hl ih =>
    have hone : At source pos ([c] ++ rest) := hat
    obtain ⟨C, hC, hstop, htext, hstart, -⟩ := ih hone.advance h
    have hhead := TextPart.literal hat hl
    have hlen := hstop.offset_add_length
    have hcut := hhead.deleting_append_slice hC.toCommentsIn (by omega)
    have hslice : slice source pos.offset (pos.step c).offset = [c] := hone.slice_eq
    rw [hslice, deleting_nil] at hcut
    refine ⟨C, hhead.append hC, hstop, ?_, ?_, ?_⟩
    · rw [htext, show C = [] ++ C from rfl, hcut]
      simp
    · intro hne
      rw [hstart (by simp), dif_neg (by simpa using hne)]
    · rintro rfl -
      have hpos : run.start = pos := hstart (by simp)
      rw [hpos]
      exact .literal hat hC.toCommentsIn
  | case4 => cases h
  | case5 kept start pos c rest inside hl skipped after hc ih =>
    have hsource : c :: rest = (openMark ++ skipped) ++ after := by
      rw [eq_of_lead_comment hl, ← closeComment_append hc, List.append_assoc]
    rw [hsource] at hat
    obtain ⟨C, hC, hstop, htext, hstart, hfirst⟩ := ih hat.advance h
    have hhead := TextPart.comment hat ⟨skipped, rfl, commentTail_of_closeComment hc⟩
    have hlen := hstop.offset_add_length
    have hcut := hhead.deleting_append_slice hC.toCommentsIn (by omega)
    rw [hat.slice_eq, deleting_comment, List.nil_append] at hcut
    refine ⟨_, hhead.append hC, hstop, ?_, hstart, ?_⟩
    · rw [hcut]
      exact htext
    · intro hk hne
      exact (hfirst hk hne).afterComment hhead.le

end TagTemplate
