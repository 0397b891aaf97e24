import TagTemplate.Proofs.Source.References
import TagTemplate.Tree.Builder

/-!
# The pieces of an unknown tag

The source of an unknown tag is read mark by mark (`reading_induction`): no mark is left, or the
next one has a partner and reading goes on behind that, or it has none and reading goes on behind
the mark itself. A partner is what the scanner looks for in text. For each of the three there is one
equation that says what pieces there are.
-/

namespace TagTemplate

/-- A text is parted in front of the first character that a test refuses. -/
theorem Text.parted_append {p : Char → Bool} {before : List Char} {c : Char}
    (h : ∀ c ∈ before, p c = true) (hc : p c = false) (after : List Char) :
    (before ++ c :: after).takeWhile p = before ∧
      (before ++ c :: after).dropWhile p = c :: after := by
  have hno : ¬p c = true := Bool.eq_false_iff.mp hc
  constructor
  · rw [List.takeWhile_append_of_pos h, List.takeWhile_cons_of_neg hno, List.append_nil]
  · rw [List.dropWhile_append_of_pos h, List.dropWhile_cons_of_neg hno]

namespace TreeBuilder

variable {before after expression cs : List Char} {c : Char}

/-! ## Following the marks -/

theorem endsReference_iff : endsReference c = true ↔ c = '#' ∨ c = '<' ∨ c = '>' ∨ c = '\n' := by
  simp [endsReference, or_assoc]

/-- Characters of which none ends a reference. -/
def NoEnd (cs : List Char) : Prop := ∀ c ∈ cs, endsReference c = false

theorem NoEnd.plain (h : NoEnd cs) : ∀ c ∈ cs, c ≠ '#' ∧ c ≠ '<' ∧ c ≠ '>' ∧ c ≠ '\n' := by
  intro c hc
  have hno : ¬endsReference c = true := Bool.eq_false_iff.mp (h c hc)
  rw [endsReference_iff] at hno
  simpa using hno

/-- Behind a mark there is a partner, or something else ends the reference, or nothing does. -/
theorem behind_mark_cases (after : List Char) :
    (∃ expression rest, NoEnd expression ∧ after = expression ++ '#' :: rest) ∨
      closeInterpolation after = none ∧
        (NoEnd after ∨ ∃ expression c rest, NoEnd expression ∧ endsReference c = true ∧ c ≠ '#' ∧
          after = expression ++ c :: rest) := by
  cases after using Text.pieces_induction endsReference with
  | last after hplain =>
    have hplain : NoEnd after := hplain
    have hnone := closeInterpolation_plain_append hplain.plain []
    rw [List.append_nil] at hnone
    exact .inr ⟨hnone, .inl hplain⟩
  | piece expression c rest hplain hc _ =>
    have hplain : NoEnd expression := hplain
    by_cases hmark : c = '#'
    · exact .inl ⟨expression, rest, hplain, by rw [hmark]⟩
    · have hend := (endsReference_iff.mp hc).resolve_left hmark
      refine .inr ⟨?_, .inr ⟨expression, c, rest, hplain, hc, hmark, rfl⟩⟩
      rw [closeInterpolation_plain_append hplain.plain, closeInterpolation, if_neg hmark,
        if_pos hend]
      rfl

/-- A text is followed mark by mark, behind a pair or behind a mark that has no partner. -/
@[elab_as_elim]
theorem reading_induction {motive : List Char → Prop} (cs : List Char)
    (plain : ∀ cs, '#' ∉ cs → motive cs)
    (pair : ∀ before expression rest, '#' ∉ before → NoEnd expression → motive rest →
      motive (before ++ '#' :: (expression ++ '#' :: rest)))
    (stray : ∀ before after, '#' ∉ before → closeInterpolation after = none → motive after →
      motive (before ++ '#' :: after)) : motive cs := by
  by_cases hmark : '#' ∈ cs
  · obtain ⟨before, after, rfl, hbefore⟩ := List.eq_append_cons_of_mem hmark
    obtain ⟨expression, rest, hplain, rfl⟩ | ⟨hnone, -⟩ := behind_mark_cases after
    · exact pair before expression rest hbefore hplain (reading_induction rest plain pair stray)
    · exact stray before after hbefore hnone (reading_induction after plain pair stray)
  · exact plain cs hmark
termination_by cs.length
decreasing_by
  all_goals
    simp only [*, List.length_append, List.length_cons]
    omega

/-! ## The pieces -/

/-- Up to a mark that no other stands in front of, and from it on. -/
theorem parted_mark (h : '#' ∉ before) (after : List Char) :
    (before ++ '#' :: after).takeWhile (· != '#') = before ∧
      (before ++ '#' :: after).dropWhile (· != '#') = '#' :: after :=
  ⟨Scope.takeWhile_notMark h after, Scope.dropWhile_notMark h after⟩

theorem foreignPieces_plain (span : Span) (h : '#' ∉ cs) :
    foreignPieces span cs = [.text (String.ofList cs)] := by
  have hplain : ∀ c ∈ cs, (c != '#') = true := Scope.notMark_of_notMem h
  rw [foreignPieces]
  split
  · rw [List.takeWhile_eq_self_iff.mpr hplain]
  · next hmark =>
    rw [List.dropWhile_eq_nil_iff.mpr hplain] at hmark
    cases hmark

theorem foreignPieces_pair (span : Span) (hbefore : '#' ∉ before) (h : NoEnd expression)
    (rest : List Char) :
    foreignPieces span (before ++ '#' :: (expression ++ '#' :: rest)) =
      .text (String.ofList before) :: .interpolation (String.ofList expression) span ::
        foreignPieces span rest := by
  obtain ⟨htext, hmark⟩ := parted_mark hbefore (expression ++ '#' :: rest)
  have hno : ∀ c ∈ expression, (!endsReference c) = true := by
    intro c hc
    rw [h c hc]
    rfl
  obtain ⟨hexpression, hclose⟩ := Text.parted_append (c := '#') hno rfl rest
  rw [foreignPieces]
  split
  · next hnone => cases hmark.symm.trans hnone
  · next hfound =>
    cases hmark.symm.trans hfound
    split
    · next hfound =>
      cases hclose.symm.trans hfound
      rw [htext, hexpression]
    · next hnone => exact absurd hclose (hnone rest)

theorem foreignPieces_stray (span : Span) (hbefore : '#' ∉ before)
    (h : closeInterpolation after = none) :
    foreignPieces span (before ++ '#' :: after) =
      .text (String.ofList (before ++ ['#'])) :: foreignPieces span after := by
  obtain ⟨htext, hmark⟩ := parted_mark hbefore after
  rw [foreignPieces]
  split
  · next hnone => cases hmark.symm.trans hnone
  · next hfound =>
    cases hmark.symm.trans hfound
    split
    · next rest hclose =>
      -- what was found would be a partner of the mark
      have hplain : NoEnd (after.takeWhile (!endsReference ·)) := by
        intro c hc
        simpa using List.mem_takeWhile_imp hc
      have hafter := List.takeWhile_append_dropWhile (p := (!endsReference ·)) (l := after)
      rw [← hafter, hclose, closeInterpolation_of_plain hplain.plain] at h
      cases h
    · rw [htext]

/-- There is a text in front of the first reference, if only an empty one. -/
theorem foreignPieces_first (span : Span) (cs : List Char) :
    ∃ first others, foreignPieces span cs = .text first :: others := by
  cases cs using reading_induction with
  | plain cs hplain => exact ⟨_, _, foreignPieces_plain span hplain⟩
  | pair before expression rest hbefore hplain _ =>
    exact ⟨_, _, foreignPieces_pair span hbefore hplain rest⟩
  | stray before after hbefore hnone _ => exact ⟨_, _, foreignPieces_stray span hbefore hnone⟩

end TreeBuilder

end TagTemplate
