import TagTemplate.Proofs.Source.Quotes
import TagTemplate.Proofs.Source.Seam
import TagTemplate.Proofs.Source.Sights

/-!
# A comment put into text

Every decision of the scanner looks ahead: for the rest of a mark, the letter after `<`, the partner
of `#`, the quote that closes. A comment that is put into text changes none of these decisions but
one. A tag in which a quote never closes ends at its first `>`, and the scanner finds out that the
quote never closes by looking as far as the end of the source. Where that quote is closed again
before the comment, the comment shows a `>` outside of quotes, and the tag ends there instead.

So the source shows what it has shown just if no such tag stands before the comment
(`sights_comment_iff`).
-/

namespace TagTemplate

/-! ## Comments in front of anything -/

/-- What is left of a comment holds at least the mark that closes it. -/
theorem length_le_of_commentTail {depth : Nat} {tail : List Char} (h : CommentTail depth tail) :
    0 < depth → closeMark.length ≤ tail.length := by
  induction h with
  | closed => exact fun h => absurd h (Nat.lt_irrefl 0)
  | opens h ih =>
    intro _
    have hrest := ih (Nat.succ_pos _)
    rw [List.length_append]
    omega
  | closes h ih =>
    intro _
    rw [List.length_append]
    omega
  | other hopen hclose h ih =>
    intro hdepth
    exact Nat.le_succ_of_le (ih hdepth)

/-- The rest of some comments is passed over in front of anything. -/
theorem closeComment_of_commentTail {depth : Nat} {tail : List Char} (h : CommentTail depth tail)
    (after : List Char) : closeComment depth (tail ++ after) = some (tail, after) := by
  induction h with
  | closed => rw [List.nil_append, closeComment]
  | opens h ih => simp [openMark, closeComment, ih]
  | closes h ih => simp [closeMark, closeComment, ih]
  | @other depth c rest hopen hclose h ih =>
    -- a mark is no longer than what is left of the comment, so none begins here and ends behind it
    have hlength : closeMark.length ≤ rest.length := length_le_of_commentTail h (Nat.succ_pos _)
    have hinside : ∀ {mark : List Char}, mark.length ≤ closeMark.length + 1 →
        mark <+: c :: rest ++ after → mark <+: c :: rest := by
      intro mark hmark hprefix
      refine List.prefix_of_prefix_length_le hprefix (List.prefix_append _ _) ?_
      rw [List.length_cons]
      omega
    rw [List.cons_append, closeComment.eq_5, ih]
    · rfl
    · rintro inner rfl hrest
      exact hopen (hinside (by decide) ⟨inner, by rw [List.cons_append, hrest]; rfl⟩)
    · rintro inner rfl hrest
      exact hclose (hinside (by decide) ⟨inner, by rw [List.cons_append, hrest]; rfl⟩)

/-- A comment is what the scanner passes over when it finds an opening mark. -/
theorem isComment_iff {cs : List Char} :
    IsComment cs ↔ ∃ tail, cs = openMark ++ tail ∧ closeComment 1 tail = some (tail, []) := by
  refine exists_congr fun tail => and_congr_right fun _ => ⟨fun h => ?_, ?_⟩
  · have hclose := closeComment_of_commentTail h []
    rwa [List.append_nil] at hclose
  · exact commentTail_of_closeComment

/-- What is left of a comment shows a `>`. -/
theorem gt_mem_of_commentTail {depth : Nat} {tail : List Char} (h : CommentTail depth tail) :
    0 < depth → '>' ∈ tail := by
  induction h with
  | closed => exact fun h => absurd h (Nat.lt_irrefl 0)
  | opens h ih => exact fun _ => List.mem_append_right _ (ih (Nat.succ_pos _))
  | closes h ih => exact fun _ => List.mem_append_left _ (by decide)
  | other hopen hclose h ih => exact fun hdepth => List.mem_cons_of_mem _ (ih hdepth)

/-! ## What a character begins -/

theorem lead_openMark (tail : List Char) :
    lead '<' ('!' :: '-' :: '-' :: '-' :: tail) = .comment tail := rfl

theorem opensTag_append_left {cs : List Char} (h : opensTag cs = true) (after : List Char) :
    opensTag (cs ++ after) = true := by
  rcases cs with _ | ⟨c, _ | ⟨d, cs⟩⟩
  · cases h
  · exact opensTag_of_isAlpha (by simpa [opensTag] using h) after
  · by_cases hc : c = '/'
    · subst hc
      exact h
    · simpa [opensTag, hc] using h

/-- What opens a tag stands in front of its end. -/
theorem opensTag_of_append_gt {inside after : List Char}
    (h : opensTag (inside ++ '>' :: after) = true) : opensTag inside = true := by
  rcases inside with _ | ⟨c, _ | ⟨d, inside⟩⟩
  · cases h
  · by_cases hc : c = '/'
    · subst hc
      cases h
    · simpa [opensTag, hc] using h
  · by_cases hc : c = '/'
    · subst hc
      exact h
    · simpa [opensTag, hc] using h

/-- An interpolation ends at its own mark, whatever follows that. -/
theorem closeInterpolation_of_close {cs expression rest : List Char}
    (h : closeInterpolation cs = some (expression, rest)) (after : List Char) :
    closeInterpolation (expression ++ '#' :: after) = some (expression, after) := by
  induction cs generalizing expression with
  | nil => cases h
  | cons c cs ih =>
    rw [closeInterpolation] at h
    split at h
    · cases h
      exact if_pos rfl
    · next hmark =>
      split at h
      · cases h
      · next hplain =>
        obtain ⟨⟨e, a⟩, hclose, hpair⟩ := Option.map_eq_some_iff.mp h
        cases hpair
        rw [List.cons_append, closeInterpolation, if_neg hmark, if_neg hplain, ih hclose]
        rfl

theorem lead_of_opensTag {rest : List Char} (h : opensTag rest = true) :
    lead '<' rest = .markup (.tag rest) := by
  obtain ⟨c, after, hcons, hlead⟩ := atMarkup_tag h
  cases hcons
  exact hlead

theorem opensTag_of_lead {c : Char} {rest afterMark : List Char}
    (h : lead c rest = .markup (.tag afterMark)) : opensTag rest = true := by
  unfold lead at h
  split at h
  · split at h
    · cases h
    · split at h
      · assumption
      · cases h
  · split at h
    · split at h <;> cases h
    · cases h

theorem closeInterpolation_of_lead {c : Char} {rest expression after : List Char}
    (h : lead c rest = .markup (.interpolation expression after)) :
    closeInterpolation rest = some (expression, after) := by
  unfold lead at h
  split at h
  · split at h
    · cases h
    · split at h <;> cases h
  · split at h
    · split at h
      · cases h
        assumption
      · cases h
    · cases h

theorem lead_of_closeInterpolation {rest expression after : List Char}
    (h : closeInterpolation rest = some (expression, after)) :
    lead '#' rest = .markup (.interpolation expression after) := by
  unfold lead
  rw [if_neg (by decide), if_pos rfl, h]

/-- A character that is literal in front of some text is literal in front of a comment there. -/
theorem lead_eq_literal_of_append {c : Char} {rest after : List Char}
    (h : lead c (rest ++ after) = .literal) (inner : List Char) :
    lead c (rest ++ '<' :: inner) = .literal := by
  rw [lead_append]
  -- what the character begins by itself it begins in front of the text as well
  cases hlead : lead c rest with
  | literal => rfl
  | comment inside =>
    have hmark := eq_of_lead_comment hlead
    cases hmark
    cases h
  | markup found =>
    have hhead := eq_of_lead_markup hlead
    rcases found with ⟨afterMark⟩ | ⟨expression, behind⟩
    · obtain ⟨rfl, rfl⟩ := hhead
      rw [lead_of_opensTag (opensTag_append_left (opensTag_of_lead hlead) after)] at h
      cases h
    · obtain ⟨rfl, rfl⟩ := hhead
      have hclose :=
        closeInterpolation_of_close (closeInterpolation_of_lead hlead) (behind ++ after)
      rw [List.append_assoc, List.cons_append, lead_of_closeInterpolation hclose] at h
      cases h

/-! ## Where a tag ends -/

theorem closeTagAnywhere_of_close {cs inside rest : List Char}
    (h : closeTagAnywhere cs = some (inside, rest)) (after : List Char) :
    closeTagAnywhere (inside ++ '>' :: after) = some (inside, after) := by
  induction cs generalizing inside with
  | nil => cases h
  | cons c cs ih =>
    rw [closeTagAnywhere] at h
    split at h
    · cases h
      rfl
    · next hc =>
      obtain ⟨⟨inside', after'⟩, hclose, hpair⟩ := Option.map_eq_some_iff.mp h
      cases hpair
      rw [List.cons_append, closeTagAnywhere, if_neg hc, ih hclose]
      rfl

/-- Outside of quotes a comment without marks ends a tag. -/
theorem closeTagOutsideQuotes_comment {comment : List Char} (hcomment : IsComment comment)
    (hplain : ∀ c ∈ comment, ¬ (c = '"' ∨ c = '\'')) (rest : List Char) :
    ∃ inside after, closeTagOutsideQuotes none (comment ++ rest) = .ok (inside, after) := by
  cases hclose : closeTagOutsideQuotes none (comment ++ rest) with
  | ok split => exact ⟨split.1, split.2, rfl⟩
  | error isOpen =>
    obtain ⟨tail, rfl, htail⟩ := hcomment
    have hnot := gt_not_mem_of_closeTagOutsideQuotes hclose
    have hgt : '>' ∈ tail := gt_mem_of_commentTail htail Nat.one_pos
    rw [outsideQuotes_append, (quoteAfter_of_plain hplain).2] at hnot
    exact absurd (List.mem_append_left _ (List.mem_append_right _ hgt)) hnot

namespace Scanner

/-! ## Places in text -/

/-- What is left behind the literal character, comment, interpolation or tag that begins with a
character in text. Nothing is behind a comment or a tag that does not end. -/
def passed (c : Char) (rest : List Char) : Option (List Char) :=
  match lead c rest with
  | .literal => some rest
  | .comment inside => (closeComment 1 inside).map Prod.snd
  | .markup (.interpolation _ after) => some after
  | .markup (.tag afterMark) => (closeTag afterMark).map Prod.snd

/-- What can be passed: a literal character, a comment, an interpolation or a tag. -/
theorem passed_cases {c : Char} {part rest : List Char} (h : passed c (part ++ rest) = some rest) :
    (part = [] ∧ lead c rest = .literal) ∨
      (∃ tail, c :: part = openMark ++ tail ∧ CommentTail 1 tail) ∨
      (∃ expression, c = '#' ∧ part = expression ++ ['#'] ∧
        closeInterpolation (part ++ rest) = some (expression, rest)) ∨
      (∃ inside, c = '<' ∧ opensTag (part ++ rest) = true ∧
        closeTag (part ++ rest) = some (inside, rest)) := by
  rw [passed] at h
  cases hlead : lead c (part ++ rest) with
  | literal =>
    rw [hlead, Option.some.injEq, List.append_left_eq_self] at h
    subst h
    exact Or.inl ⟨rfl, hlead⟩
  | comment inside =>
    rw [hlead] at h
    obtain ⟨⟨tail, after⟩, hclose, rfl⟩ := Option.map_eq_some_iff.mp h
    refine Or.inr (Or.inl ⟨tail, ?_, commentTail_of_closeComment hclose⟩)
    have hmark := eq_of_lead_comment hlead
    rw [← closeComment_append hclose, ← List.append_assoc, ← List.cons_append] at hmark
    exact List.append_cancel_right hmark
  | markup found =>
    rw [hlead] at h
    have hhead := eq_of_lead_markup hlead
    rcases found with ⟨afterMark⟩ | ⟨expression, behind⟩
    · obtain ⟨rfl, rfl⟩ := hhead
      obtain ⟨⟨inside, after⟩, hclose, rfl⟩ := Option.map_eq_some_iff.mp h
      exact Or.inr (Or.inr (Or.inr ⟨inside, rfl, opensTag_of_lead hlead, hclose⟩))
    · obtain ⟨rfl, hpart⟩ := hhead
      cases h
      rw [List.append_cons] at hpart
      exact Or.inr (Or.inr (Or.inl ⟨expression, rfl, List.append_cancel_right hpart,
        closeInterpolation_of_lead hlead⟩))

/-- With `after` left to read, a scanner that has read this is in text. -/
inductive InTextBefore (after : List Char) : (read : List Char) → Prop
  | start : InTextBefore after []
  | beyond {c : Char} {part rest : List Char}
    (hpassed : passed c (part ++ (rest ++ after)) = some (rest ++ after))
    (h : InTextBefore after rest) : InTextBefore after (c :: part ++ rest)

/-- If a quote of the tag never closes, then one is open where the first of two parts ends. -/
def HoldsQuoteOpen (afterMark after : List Char) : Prop :=
  opensTag (afterMark ++ after) = true →
    closeTagOutsideQuotes none (afterMark ++ after) = .error true → quoteAfter none afterMark ≠ none

/-- Each tag of `read` in which a quote never closes has a quote open where `read` ends. -/
def KeepsQuotesOpen (read after : List Char) : Prop :=
  ∀ before afterMark, read = before ++ '<' :: afterMark →
    InTextBefore ('<' :: afterMark ++ after) before → HoldsQuoteOpen afterMark after

/-- What is passed first in a text that is read is passed first in the part of it that ends in
front of a later place. -/
theorem InTextBefore.split {c : Char} {part rest before mark after : List Char}
    (hpassed : passed c (part ++ (rest ++ after)) = some (rest ++ after))
    (h : InTextBefore (mark ++ after) before) (heq : c :: part ++ rest = before ++ mark) :
    before = [] ∨
      ∃ later, before = c :: part ++ later ∧ rest = later ++ mark ∧
        InTextBefore (mark ++ after) later := by
  cases h with
  | start => exact Or.inl rfl
  | @beyond c' part' later hpassed' h =>
    right
    rw [List.cons_append, List.cons_append, List.cons_append, List.cons.injEq] at heq
    obtain ⟨rfl, heq⟩ := heq
    rw [List.append_assoc] at heq
    -- the same characters follow, so the same are left
    have hsame : part ++ (rest ++ after) = part' ++ (later ++ (mark ++ after)) := by
      rw [← List.append_assoc, heq]
      simp only [List.append_assoc]
    rw [hsame, hpassed', Option.some.injEq, ← List.append_assoc, List.append_left_inj] at hpassed
    subst hpassed
    rw [List.append_left_inj] at heq
    subst heq
    exact ⟨later, rfl, rfl, h⟩

/-- Quotes are kept open if the first thing that is read keeps them open, should it be a tag, and
if the rest does. -/
theorem keepsQuotesOpen_beyond {c : Char} {part rest after : List Char}
    (hpassed : passed c (part ++ (rest ++ after)) = some (rest ++ after)) :
    KeepsQuotesOpen (c :: part ++ rest) after ↔
      (c = '<' → HoldsQuoteOpen (part ++ rest) after) ∧ KeepsQuotesOpen rest after := by
  constructor
  · intro h
    refine ⟨?_, ?_⟩
    · rintro rfl
      exact h [] (part ++ rest) rfl .start
    · intro before afterMark heq hbefore
      refine h (c :: part ++ before) afterMark ?_ ?_
      · rw [heq, List.append_assoc]
      · refine .beyond ?_ hbefore
        rwa [heq, List.append_assoc] at hpassed
  · rintro ⟨hhead, hrest⟩ before afterMark heq hbefore
    rcases hbefore.split hpassed heq with rfl | ⟨later, rfl, hlater, hmore⟩
    · cases heq
      exact hhead rfl
    · exact hrest later afterMark hlater hmore

/-! ## A comment in the source -/

/-- A tag ends with the `>` that closes it. -/
theorem eq_of_closeTag {part rest inside : List Char}
    (h : closeTag (part ++ rest) = some (inside, rest)) : part = inside ++ ['>'] := by
  have happend := closeTag_append h
  rw [List.append_cons, List.append_left_inj] at happend
  exact happend.symm

section

variable {comment : List Char} (hcomment : IsComment comment)
  (hplain : ∀ c ∈ comment, ¬ (c = '"' ∨ c = '\''))

include hplain in
/-- In front of a comment a tag ends where it did if it has ended outside of quotes, or if it holds
a quote open up to the comment. -/
theorem closeTag_insert {part rest after inside : List Char}
    (hopens : opensTag (part ++ (rest ++ after)) = true)
    (hclose : closeTag (part ++ (rest ++ after)) = some (inside, rest ++ after))
    (hholds : HoldsQuoteOpen (part ++ rest) after) :
    closeTag (part ++ (rest ++ (comment ++ after))) =
      some (inside, rest ++ (comment ++ after)) := by
  have hpart := eq_of_closeTag hclose
  cases hend : closeTagOutsideQuotes none (part ++ (rest ++ after)) with
  | ok split =>
    rw [closeTag, hend] at hclose
    cases hclose
    obtain ⟨hclosed, hgt⟩ := closed_of_closeTagOutsideQuotes hend
    rw [hpart, List.append_assoc]
    exact closeTag_of_hidden (hidden_of_quoteAfter hclosed hgt) _
  | error isOpen =>
    rw [closeTag, hend] at hclose
    cases isOpen with
    | false => cases hclose
    | true =>
      rw [HoldsQuoteOpen, List.append_assoc] at hholds
      obtain ⟨mark, hmark⟩ := Option.ne_none_iff_exists'.mp (hholds hopens hend)
      -- the quote that is open hides the comment and stays open behind it
      have hnot : mark ∉ comment := by
        intro hmem
        exact hplain mark hmem (isMark_of_quoteAfter (by rintro _ ⟨⟩) hmark)
      have hgt := gt_not_mem_of_closeTagOutsideQuotes hend
      rw [← List.append_assoc, outsideQuotes_append, List.mem_append, not_or] at hgt
      have hinside := quoteAfter_inside hnot
      have hend' : closeTagOutsideQuotes none (part ++ (rest ++ (comment ++ after))) =
          .error true := by
        rw [← List.append_assoc, closeTagOutsideQuotes_append_eq hgt.1, hmark]
        rw [closeTagOutsideQuotes_append_eq (by rw [hinside.2]; exact List.not_mem_nil), hinside.1]
        rw [← List.append_assoc, closeTagOutsideQuotes_append_eq hgt.1, hmark] at hend
        cases hrest : closeTagOutsideQuotes (some mark) after with
        | ok split =>
          rw [hrest] at hend
          cases hend
        | error isOpen =>
          rw [hrest] at hend
          cases hend
          rfl
      rw [closeTag, hend', hpart, List.append_assoc]
      exact closeTagAnywhere_of_close hclose _

include hcomment hplain in
/-- A tag that does not, ends inside the comment. -/
theorem closeTag_insert_of_not {part rest after : List Char}
    (hholds : ¬ HoldsQuoteOpen (part ++ rest) after) :
    ∃ inside behind, closeTag (part ++ (rest ++ (comment ++ after))) =
      some (part ++ rest ++ inside, behind) := by
  rw [HoldsQuoteOpen] at hholds
  push Not at hholds
  obtain ⟨hopens, hend, hquote⟩ := hholds
  have hgt := gt_not_mem_of_closeTagOutsideQuotes hend
  rw [outsideQuotes_append, List.mem_append, not_or] at hgt
  obtain ⟨inside, behind, hclose⟩ := closeTagOutsideQuotes_comment hcomment hplain after
  refine ⟨inside, behind, ?_⟩
  rw [closeTag, ← List.append_assoc, closeTagOutsideQuotes_append_eq hgt.1, hquote, hclose]
  rfl

include hcomment hplain in
/-- With a comment put in further on, a tag shows what it has shown just if it holds a quote open.
-/
theorem sights_tag_insert_iff {part rest after inside : List Char}
    (hopens : opensTag (part ++ (rest ++ after)) = true)
    (hclose : closeTag (part ++ (rest ++ after)) = some (inside, rest ++ after))
    (kept : List Char) :
    sights kept ('<' :: (part ++ (rest ++ (comment ++ after)))) =
        sights kept ('<' :: (part ++ (rest ++ after))) ↔
      HoldsQuoteOpen (part ++ rest) after ∧
        sights [] (rest ++ (comment ++ after)) = sights [] (rest ++ after) := by
  have hpart := eq_of_closeTag hclose
  have hopens' : opensTag (part ++ (rest ++ (comment ++ after))) = true := by
    rw [hpart, List.append_assoc] at hopens ⊢
    exact opensTag_append_left (opensTag_of_append_gt hopens) _
  rw [sights_tag hopens hclose]
  by_cases hholds : HoldsQuoteOpen (part ++ rest) after
  · rw [sights_tag hopens' (closeTag_insert hplain hopens hclose hholds)]
    rw [List.append_cancel_left_eq, List.cons.injEq]
    exact and_congr_left fun _ => iff_of_true rfl hholds
  · refine iff_of_false ?_ fun h => hholds h.1
    obtain ⟨inner, behind, hclose'⟩ := closeTag_insert_of_not hcomment hplain hholds
    rw [sights_tag hopens' hclose', List.append_cancel_left_eq, List.cons.injEq]
    rintro ⟨hshown, -⟩
    -- the token is longer, for it goes on into the comment
    have hlexeme := String.ofList_injective (Prod.mk.inj (Except.ok.inj hshown)).2
    rw [hpart] at hlexeme
    simp at hlexeme

include hcomment hplain in
/-- With a comment put in, a source shows what it has shown just if the tags before the comment keep
their quotes open. -/
theorem sights_comment_iff {read after : List Char} (hread : InTextBefore after read)
    (kept : List Char) :
    sights kept (read ++ (comment ++ after)) = sights kept (read ++ after) ↔
      KeepsQuotesOpen read after := by
  -- by what is passed first: it is passed in front of the comment as well, and shows the same
  induction hread generalizing kept with
  | start =>
    obtain ⟨tail, rfl, htail⟩ := hcomment
    have hsame : sights kept (openMark ++ tail ++ after) = sights kept after :=
      sights_comment (lead_openMark _) (closeComment_of_commentTail htail after) kept
    refine iff_of_true hsame ?_
    intro before afterMark heq
    cases before <;> cases heq
  | @beyond c part rest hpassed h ih =>
    rw [keepsQuotesOpen_beyond hpassed]
    rcases passed_cases hpassed with ⟨rfl, hlead⟩ | ⟨tail, hmark, htail⟩ |
      ⟨expression, rfl, rfl, hclose⟩ | ⟨inside, rfl, hopens, hclose⟩
    · have hhead : c = '<' → HoldsQuoteOpen rest after := by
        rintro rfl hopens
        rw [lead_of_opensTag hopens] at hlead
        cases hlead
      have hlead' : lead c (rest ++ (comment ++ after)) = .literal := by
        obtain ⟨tail, rfl, htail⟩ := hcomment
        exact lead_eq_literal_of_append hlead _
      rw [List.singleton_append, List.cons_append, List.cons_append, sights_literal hlead,
        sights_literal hlead', ih]
      exact (and_iff_right hhead).symm
    · have hhead : c = '<' → HoldsQuoteOpen (part ++ rest) after := by
        rintro rfl hopens
        cases hmark
        cases hopens
      have hpast : ∀ behind, sights kept (c :: part ++ behind) = sights kept behind := by
        intro behind
        rw [hmark]
        exact sights_comment (lead_openMark _) (closeComment_of_commentTail htail behind) kept
      rw [List.append_assoc, List.append_assoc, hpast, hpast, ih]
      exact (and_iff_right hhead).symm
    · have hhead : '#' = '<' → HoldsQuoteOpen (expression ++ ['#'] ++ rest) after :=
        fun h => absurd h (by decide)
      have hpast : ∀ behind, sights kept ('#' :: (expression ++ ['#']) ++ behind) =
          showText kept.reverse ++ showLexeme (.interpolation (String.ofList expression))
            ('#' :: expression ++ ['#']) :: sights [] behind := by
        intro behind
        have hclose' : closeInterpolation (expression ++ ['#'] ++ behind) =
            some (expression, behind) := by
          rw [List.append_assoc]
          exact closeInterpolation_of_close hclose behind
        exact sights_interpolation hclose' kept
      rw [List.append_assoc, List.append_assoc, hpast, hpast, List.append_cancel_left_eq,
        List.cons.injEq, ih]
      exact (and_iff_right rfl).trans (and_iff_right hhead).symm
    · simp only [List.cons_append, List.append_assoc]
      rw [sights_tag_insert_iff hcomment hplain hopens hclose, ih]
      exact and_congr_left fun _ => true_imp_iff.symm

end

/-- A comment without quotes that is put into text does not show, just if each tag before it in
which a quote never closes holds a quote open up to it. -/
theorem comment_transparent_iff {read comment after : String}
    (hread : InTextBefore after.toList read.toList) (hcomment : IsComment comment.toList)
    (hplain : ∀ c ∈ comment.toList, ¬ (c = '"' ∨ c = '\'')) :
    (ofSource (read ++ comment ++ after)).items.map sightOf =
        (ofSource (read ++ after)).items.map sightOf ↔
      KeepsQuotesOpen read.toList after.toList := by
  rw [map_sightOf_items, map_sightOf_items, String.toList_append, String.toList_append,
    String.toList_append, List.append_assoc]
  exact sights_comment_iff hcomment hplain hread []

/-- In `<a ">x` the quote never closes, and it is still open where the comment is put. -/
theorem comment_transparent_in_open_quote :
    (ofSource ("<a \">" ++ "<!--- --->" ++ "x")).items.map sightOf =
      (ofSource ("<a \">" ++ "x")).items.map sightOf := by
  have hread : InTextBefore "x".toList "<a \">".toList :=
    @InTextBefore.beyond _ '<' "a \">".toList [] (by decide) .start
  have hcomment : IsComment "<!--- --->".toList := isComment_iff.mpr ⟨" --->".toList, by decide⟩
  have hkeeps : KeepsQuotesOpen "<a \">".toList "x".toList := by
    intro before afterMark heq _ _ _
    rcases before with _ | ⟨c, before⟩
    · cases heq
      decide
    · have hmem : '<' ∈ "a \">".toList := by
        rw [show "a \">".toList = before ++ '<' :: afterMark from (List.cons.inj heq).2]
        exact List.mem_append_right _ (List.mem_cons_self ..)
      exact absurd hmem (by decide)
  have hplain : ∀ c ∈ "<!--- --->".toList, ¬ (c = '"' ∨ c = '\'') := by
    rintro c hc (rfl | rfl)
    · exact absurd hc (by decide)
    · exact absurd hc (by decide)
  exact (comment_transparent_iff hread hcomment hplain).mpr hkeeps

/-- In `<a ">" '` it is the second quote that never closes. A comment before it has the tag end
inside the comment. -/
theorem comment_shows_behind_closed_quote :
    InTextBefore "'".toList "<a \">\" ".toList ∧ IsComment "<!--- --->".toList ∧
      (∀ c ∈ "<!--- --->".toList, ¬ (c = '"' ∨ c = '\'')) ∧
      (ofSource ("<a \">\" " ++ "<!--- --->" ++ "'")).items.map sightOf ≠
        (ofSource ("<a \">\" " ++ "'")).items.map sightOf := by
  have hread : InTextBefore "'".toList "<a \">\" ".toList :=
    @InTextBefore.beyond _ '<' "a \">".toList ['"', ' '] (by decide)
      (@InTextBefore.beyond _ '"' [] [' '] (by decide)
        (@InTextBefore.beyond _ ' ' [] [] (by decide) .start))
  have hcomment : IsComment "<!--- --->".toList := isComment_iff.mpr ⟨" --->".toList, by decide⟩
  have hplain : ∀ c ∈ "<!--- --->".toList, ¬ (c = '"' ∨ c = '\'') := by
    rintro c hc (rfl | rfl)
    · exact absurd hc (by decide)
    · exact absurd hc (by decide)
  refine ⟨hread, hcomment, hplain, ?_⟩
  rw [map_sightOf_items, map_sightOf_items]
  intro h
  have hkeeps := (sights_comment_iff hcomment hplain hread []).mp h
  exact hkeeps [] _ rfl .start (by decide) (by decide) (by decide)

end Scanner

end TagTemplate
