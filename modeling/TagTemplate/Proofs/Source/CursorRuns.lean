import TagTemplate.Proofs.Source.CursorSteps

/-!
# The runs of a cursor

From the steps of a cursor follow its answers, however often it is asked. Between two answers it
stands as a scanner does (`Cursor.Mirrors`), and it answers what that scanner answers. So what is
shown of the scanner holds of the cursor, and at every step of it the cursor finds what it relies
on (`scans_safely`).
-/

namespace TagTemplate

namespace Scanner

/-- The answers to some calls, one after the other, and the scanner after them. -/
def calls : (n : Nat) → Scanner → List (Option (Except ScanError Token)) × Scanner
  | 0, s => ([], s)
  | n + 1, s =>
    let answer := s.next
    let later := answer.2.calls n
    (answer.1 :: later.1, later.2)

/-- The answer is a token. -/
def yieldsToken : Option (Except ScanError Token) → Bool
  | some (.ok _) => true
  | _ => false

theorem exists_of_yieldsToken {answer : Option (Except ScanError Token)}
    (h : yieldsToken answer = true) : ∃ token, answer = some (.ok token) := by
  rcases answer with _ | _ | token
  · cases h
  · cases h
  · exact ⟨token, rfl⟩

/-- A scanner has come to its end when its answer is no token. -/
theorem finished_next (s : Scanner) : s.next.2.finished = !yieldsToken s.next.1 := by
  unfold next
  by_cases hf : s.finished = true
  · rw [if_pos hf]
    exact hf
  · rw [if_neg hf]
    cases hrun : textRun [] s.pos s.rest s.pos with
    | error pos => rfl
    | ok run =>
      dsimp only
      by_cases hempty : run.text.isEmpty = true
      · rw [if_pos hempty]
        rcases run.markup with _ | ⟨afterMark⟩ | ⟨expression, after⟩
        · rfl
        · rw [readMarkup]
          cases closeTag afterMark <;> rfl
        · rfl
      · rw [if_neg hempty]
        rfl

theorem calls_of_finished {s : Scanner} (h : s.finished = true) (n : Nat) :
    ∀ answer ∈ (s.calls n).1, answer = none := by
  induction n with
  | zero => nofun
  | succ n ih =>
    have hnext : s.next = (none, s) := if_pos h
    rw [calls, hnext]
    exact List.forall_mem_cons.mpr ⟨rfl, ih⟩

/-- Behind a fault or the end there is nothing. -/
theorem pairwise_calls (s : Scanner) (n : Nat) :
    (s.calls n).1.Pairwise fun answer later => yieldsToken answer = false → later = none := by
  induction n generalizing s with
  | zero => exact .nil
  | succ n ih =>
    rw [calls]
    refine .cons (fun later hlater hno => ?_) (ih _)
    exact calls_of_finished (by rw [finished_next, hno]; rfl) n later hlater

/-- There are no more tokens than characters. -/
theorem countP_calls_le (s : Scanner) (n : Nat) :
    (s.calls n).1.countP yieldsToken ≤ s.rest.length := by
  induction n generalizing s with
  | zero => exact Nat.zero_le _
  | succ n ih =>
    rw [calls, List.countP_cons]
    cases hyields : yieldsToken s.next.1 with
    | true =>
      obtain ⟨token, hitem⟩ := exists_of_yieldsToken hyields
      have hlt := length_lt_of_next (Prod.ext hitem rfl : s.next = (some (.ok token), s.next.2))
      have hle := ih s.next.2
      simp only [if_true]
      omega
    | false =>
      have hnone : ∀ answer ∈ (s.next.2.calls n).1, ¬ yieldsToken answer = true := by
        intro answer hanswer
        rw [calls_of_finished (by rw [finished_next, hyields]; rfl) n answer hanswer]
        exact Bool.false_ne_true
      rw [List.countP_eq_zero.mpr hnone]
      exact Nat.zero_le _

end Scanner

namespace Cursor

variable {c d : Cursor}

/-! ## Runs -/

/-- In as many steps as are left at most there is an answer, and it is the one that is due. -/
theorem run_right {steps : Nat} (h : c.Sound) (hf : c.finished = false)
    (hsteps : c.budget < steps) :
    ∃ item d, c.run steps = .ok (item, d) ∧ c.Answers item d := by
  induction steps generalizing c with
  | zero => exact absurd hsteps (Nat.not_lt_zero _)
  | succ steps ih =>
    obtain ⟨outcome, hstep, hright⟩ := step_right h hf
    rw [run, hstep]
    cases outcome with
    | answers item d => exact ⟨item, d, rfl, hright⟩
    | goesOn d =>
      obtain ⟨item, e, hrun, hanswers⟩ := ih hright.sound hright.unfinished
        (Nat.lt_of_lt_of_le hright.budget (Nat.le_of_lt_succ hsteps))
      exact ⟨item, e, hrun, hanswers.sound, hanswers.source.trans hright.source, hanswers.settled,
        hright.due.symm.trans hanswers.due⟩

/-- Between two answers, a cursor stands as a scanner does. -/
structure Mirrors (c : Cursor) (s : Scanner) : Prop where
  sound : c.Sound
  settled : c.Settled
  standing : c.standing = s.standing

theorem Mirrors.finished_eq {s : Scanner} (h : c.Mirrors s) : c.finished = s.finished := by
  have hleft := congrArg (Option.isSome ∘ Scanner.Standing.left?) h.standing
  simp only [Function.comp, Cursor.standing, Scanner.standing] at hleft
  cases hc : c.finished <;> cases hs : s.finished <;> simp [hc, hs] at hleft ⊢

theorem Mirrors.place_eq {s : Scanner} (h : c.Mirrors s) (hf : c.finished = false) :
    c.rest = s.rest ∧ c.pos = s.pos := by
  have hleft := congrArg Scanner.Standing.left? h.standing
  simpa [Cursor.standing, Scanner.standing, ← h.finished_eq, hf] using hleft

theorem mirrors_ofSource (source : String) : (ofSource source).Mirrors (.ofSource source) where
  sound := sound_of_inText (.start _) rfl rfl
  settled _ := ⟨rfl, nofun⟩
  standing := rfl

/-- A cursor answers what the scanner answers that it mirrors. -/
theorem next_mirrors {s : Scanner} (h : c.Mirrors s) :
    ∃ d, c.next = .ok (s.next.1, d) ∧ d.Mirrors s.next.2 ∧ d.source = c.source := by
  cases hf : c.finished with
  | true =>
    have hnext : s.next = (none, s) := if_pos (h.finished_eq ▸ hf)
    rw [next, if_pos hf, hnext]
    exact ⟨c, rfl, h, rfl⟩
  | false =>
    have hpatience : c.budget < c.patience := by
      rw [budget, patience, ← List.length_drop]
      show 2 * c.rest.length + _ < 2 * c.rest.length + 2
      split <;> omega
    obtain ⟨item, d, hrun, hanswers⟩ := run_right h.sound hf hpatience
    have hdue : c.due = (s.next.1, s.next.2.standing) := by
      obtain ⟨hp, hout⟩ := h.settled hf
      obtain ⟨hrest, hpos⟩ := h.place_eq hf
      rw [Scanner.next_eq_afterRun (h.finished_eq ▸ hf), due_eq (h.sound.closed hout), hp, ← hrest,
        ← hpos]
      exact Scanner.afterRun_textRun ..
    obtain ⟨hitem, hstanding⟩ := Prod.mk.inj (hanswers.due.symm.trans hdue)
    refine ⟨d, ?_, ⟨hanswers.sound, hanswers.settled, hstanding⟩, hanswers.source⟩
    rw [next, hf, if_neg Bool.false_ne_true, hrun, hitem]

theorem calls_mirrors {s : Scanner} (h : c.Mirrors s) (n : Nat) :
    ∃ d, c.calls n = .ok ((s.calls n).1, d) ∧ d.Mirrors (s.calls n).2 ∧ d.source = c.source := by
  induction n generalizing c s with
  | zero => exact ⟨c, rfl, h, rfl⟩
  | succ n ih =>
    obtain ⟨d, hnext, hd, hsource⟩ := next_mirrors h
    obtain ⟨e, hcalls, he, hsource'⟩ := ih hd
    refine ⟨e, ?_, he, hsource'.trans hsource⟩
    rw [calls, hnext]
    show (do let answers ← d.calls n; _) = _
    rw [hcalls]
    rfl

/-! ## The places that a cursor comes to -/

/-- The cursors that a source is scanned with, answers asked for again and again: the first, and
each that a step comes to. -/
inductive Visited (source : String) : Cursor → Prop
  | start : Visited source (ofSource source)
  | goesOn {c d : Cursor} (h : Visited source c) (hf : c.finished = false)
    (hstep : c.step = .ok (.goesOn d)) : Visited source d
  | answers {c d : Cursor} {item : Option (Except ScanError Token)} (h : Visited source c)
    (hf : c.finished = false) (hstep : c.step = .ok (.answers item d)) : Visited source d

namespace Visited

variable {source : String}

theorem sound (h : Visited source c) : c.Sound := by
  induction h with
  | start => exact (mirrors_ofSource source).sound
  | goesOn h hf hstep ih => exact (right_of_step ih hf hstep).sound
  | answers h hf hstep ih => exact (right_of_step ih hf hstep).sound

theorem run {steps : Nat} {item : Option (Except ScanError Token)} (h : Visited source c)
    (hf : c.finished = false) (hrun : c.run steps = .ok (item, d)) : Visited source d := by
  induction steps generalizing c with
  | zero => cases hrun
  | succ steps ih =>
    rw [Cursor.run] at hrun
    split at hrun
    · cases hrun
    · next hstep => exact ih (h.goesOn hf hstep) (right_of_step h.sound hf hstep).unfinished hrun
    · next hstep =>
      cases hrun
      exact h.answers hf hstep

theorem next {item : Option (Except ScanError Token)} (h : Visited source c)
    (hnext : c.next = .ok (item, d)) : Visited source d := by
  rw [Cursor.next] at hnext
  split at hnext
  · cases hnext
    exact h
  · next hf => exact h.run (by simpa using hf) hnext

theorem calls {n : Nat} {items : List (Option (Except ScanError Token))} (h : Visited source c)
    (hcalls : c.calls n = .ok (items, d)) : Visited source d := by
  induction n generalizing c items with
  | zero =>
    cases hcalls
    exact h
  | succ n ih =>
    rw [Cursor.calls] at hcalls
    cases hnext : c.next with
    | error mishap =>
      rw [hnext] at hcalls
      cases hcalls
    | ok answer =>
      rw [hnext] at hcalls
      dsimp only [bind, Except.bind] at hcalls
      split at hcalls
      · cases hcalls
      · next hlater =>
        cases hcalls
        exact ih (h.next hnext) hlater

end Visited

/-- The step that is due can be taken, and finds what it relies on: a tag begins with `<` and a
letter, or with `</` and a letter, and ends behind that, within the source; an interpolation has its
partner; and where a comment closes, one is open. -/
structure Ready (c : Cursor) : Prop where
  steps : ∃ outcome, c.step = .ok outcome
  tag_opens : c.state = .inTag → ∃ letter after, letter.isAlpha = true ∧
    (c.rest = '<' :: letter :: after ∨ c.rest = '<' :: '/' :: letter :: after)
  tag_ends : c.state = .inTag → ∀ stop, tagEnd c.source (c.pos.offset + 1) = some stop →
    c.pos.offset < stop ∧ stop < c.source.length
  interpolation_ends : c.state = .inInterpolation →
    ∃ stop, closingHash c.source (c.pos.offset + 1) = some stop ∧
      c.pos.offset < stop ∧ stop < c.source.length
  comment_closes : c.state = .inComment → standsAt closeMark c.source c.pos.offset = true →
    0 < c.depth

theorem ready_of_sound (h : c.Sound) (hf : c.finished = false) : c.Ready where
  steps := (step_right h hf).imp fun _ => And.left
  tag_opens hs := by
    obtain ⟨afterMark, hrest, hopens, -⟩ := h.tag hs
    rcases afterMark with _ | ⟨char, after⟩
    · cases hopens
    · by_cases hslash : char = '/'
      · subst hslash
        rcases after with _ | ⟨letter, after⟩
        · exact absurd hopens (by decide)
        · exact ⟨letter, after, hopens, .inr hrest⟩
      · exact ⟨char, after, by simpa [opensTag, hslash] using hopens, .inl hrest⟩
  tag_ends hs stop hstop := by
    obtain ⟨afterMark, hrest, -, -⟩ := h.tag hs
    rw [tagEnd_eq, (char_of_rest_cons hrest).2.1] at hstop
    obtain ⟨⟨inside, after⟩, hclose, rfl⟩ := Option.map_eq_some_iff.mp hstop
    have hlength := h.at_place.offset_add_length
    rw [hrest, ← closeTag_append hclose] at hlength
    simp at hlength ⊢
    omega
  interpolation_ends hs := by
    obtain ⟨expression, after, hrest, hclose, -⟩ := h.interpolation hs
    have hlength := h.at_place.offset_add_length
    rw [hrest] at hlength
    refine ⟨c.pos.offset + 1 + expression.length, ?_, ?_⟩
    · rw [closingHash_eq, (char_of_rest_cons hrest).2.1, hclose]
      rfl
    · simp at hlength ⊢
      omega
  comment_closes hs hmark := by
    refine Nat.pos_of_ne_zero fun hzero => ?_
    obtain ⟨tail, htail⟩ := standsAt_iff.mp hmark
    obtain ⟨tail', htail'⟩ := (h.comment hs hzero).1
    rw [rest, ← htail] at htail'
    cases htail'

/-- A token takes at least one character. -/
theorem offset_lt_of_next {s : Scanner} (h : c.Mirrors s) {token : Token}
    (hnext : c.next = .ok (some (.ok token), d)) : c.pos.offset < d.pos.offset := by
  obtain ⟨e, hnext', he, hsource⟩ := next_mirrors h
  rw [hnext] at hnext'
  obtain ⟨hitem, rfl⟩ := Prod.mk.inj (Except.ok.inj hnext')
  have htoken : s.next = (some (.ok token), s.next.2) := Prod.ext hitem.symm rfl
  have hlt := Scanner.length_lt_of_next htoken
  have hfinished : c.finished = false := by
    by_contra hf
    rw [next, if_pos (by simpa using hf)] at hnext
    cases hnext
  have hfinished' : d.finished = false := by
    rw [he.finished_eq, Scanner.finished_next, ← hitem]
    rfl
  have hlength := h.sound.at_place.offset_add_length
  have hlength' := he.sound.at_place.offset_add_length
  rw [← (h.place_eq hfinished).1, ← (he.place_eq hfinished').1] at hlt
  rw [hsource] at hlength'
  omega

/-- For every source and any number of calls, each step that comes up can be taken and finds what it
relies on. The answers are those of the scanner: a token moves the cursor, there are no more tokens
than characters, and behind a fault or the end there is nothing. -/
theorem scans_safely (source : String) :
    (∀ c, Visited source c → c.finished = false → c.Ready) ∧
      ∀ n, ∃ answers c, (ofSource source).calls n = .ok (answers, c) ∧ Visited source c ∧
        answers = ((Scanner.ofSource source).calls n).1 ∧
        (∀ token d, c.next = .ok (some (.ok token), d) → c.pos.offset < d.pos.offset) ∧
        answers.countP Scanner.yieldsToken ≤ source.length ∧
        answers.Pairwise fun answer later => Scanner.yieldsToken answer = false → later = none := by
  refine ⟨fun c h hf => ready_of_sound h.sound hf, fun n => ?_⟩
  obtain ⟨c, hcalls, hmirrors, -⟩ := calls_mirrors (mirrors_ofSource source) n
  refine ⟨_, c, hcalls, Visited.start.calls hcalls, rfl, fun token d => offset_lt_of_next hmirrors,
    ?_, Scanner.pairwise_calls _ n⟩
  rw [← String.length_toList]
  exact Scanner.countP_calls_le _ n

/-- The cursor on `#x#`, at the step over the interpolation and behind it. -/
theorem scans_safely_of_reference :
    let c := ofSource "#x#"
    Ready { c with state := .inInterpolation } ∧
      ∃ d, c.next = .ok (some (.ok ⟨.interpolation "x", ⟨0, 3, 1, 1⟩, "#x#"⟩), d) ∧
        c.pos.offset < d.pos.offset := by
  obtain ⟨hready, hcalls⟩ := scans_safely "#x#"
  constructor
  · have hrest : (ofSource "#x#").rest = '#' :: ['x', '#'] := rfl
    have hstep : (ofSource "#x#").stepText =
        .goesOn { ofSource "#x#" with state := .inInterpolation } := stepText_cons hrest
    exact hready _ (.goesOn .start rfl (congrArg Except.ok hstep)) rfl
  · have hmark : AtMarkup (Scanner.ofSource "#x#").rest (some (.interpolation ['x'] [])) :=
      ⟨'#', ['x', '#'], rfl, rfl⟩
    have hitem : (Scanner.ofSource "#x#").next.1 =
        some (.ok ⟨.interpolation "x", ⟨0, 3, 1, 1⟩, "#x#"⟩) := by
      rw [Scanner.next_of_atMarkup rfl hmark]
      rfl
    obtain ⟨d, hnext, -⟩ := next_mirrors (mirrors_ofSource "#x#")
    rw [hitem] at hnext
    obtain ⟨_, c, hzero, -, -, hmoves, -⟩ := hcalls 0
    cases hzero
    exact ⟨d, hnext, hmoves _ d hnext⟩

end Cursor

end TagTemplate
