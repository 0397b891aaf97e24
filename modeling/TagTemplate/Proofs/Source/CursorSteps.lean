import TagTemplate.Proofs.Source.Cursor

/-!
# The steps of a cursor

What holds a cursor within its source is an invariant (`Cursor.Sound`): where a tag, an
interpolation or a comment is due, one begins, and no text waits in front of markup. With it, what
the next answer will be can be told from the cursor alone (`Cursor.due`), by what the scanner makes
of the text run that the cursor is in. A step that goes on leaves that as it is and comes nearer to
the answer; a step that answers gives it. `step_right` says so of each step, and that none of them
meets with a mishap.
-/

namespace TagTemplate

namespace Scanner

/-- How a scanner stands between two answers: its state and, unless it has come to the end or to a
fault, what is left and where that stands. -/
structure Standing where
  state : ScanState
  left? : Option (List Char × Position)

def standing (s : Scanner) : Standing :=
  ⟨s.state, if s.finished then none else some (s.rest, s.pos)⟩

/-- What a scanner answers when it has read a text run, and how it stands then. -/
def afterRun : Except Position TextRun → Option (Except ScanError Token) × Standing
  | .error pos =>
    (some (.error ⟨.unterminatedComment, pos.line, pos.column⟩), ⟨.inComment, none⟩)
  | .ok run =>
    if run.text.isEmpty then
      let answer := readMarkup run.rest run.stop run.markup
      (answer.1, answer.2.standing)
    else (some (.ok run.token), ⟨stateBefore run.markup, some (run.rest, run.stop)⟩)

theorem next_eq_afterRun {s : Scanner} (hf : s.finished = false) :
    (s.next.1, s.next.2.standing) = afterRun (textRun [] s.pos s.rest s.pos) := by
  rw [next, hf, if_neg Bool.false_ne_true]
  cases textRun [] s.pos s.rest s.pos with
  | error pos => rfl
  | ok run =>
    by_cases hempty : run.text.isEmpty = true
    · simp only [afterRun, hempty, if_true]
    · simp only [afterRun, hempty]
      rfl

/-- Where the first character would have stood is of no account when nothing is kept yet. -/
theorem afterRun_textRun (rest : List Char) (start start' pos : Position) :
    afterRun (textRun [] start rest pos) = afterRun (textRun [] start' rest pos) := by
  suffices h : ∀ kept, kept = [] →
      afterRun (textRun kept start rest pos) = afterRun (textRun kept start' rest pos) from h [] rfl
  intro kept hkept
  fun_induction textRun kept start rest pos with
  | case1 kept start pos =>
    rw [textRun, hkept]
    rfl
  | case2 kept start pos c rest markup hlead =>
    have hmark : AtMarkup (c :: rest) (some markup) := ⟨c, rest, rfl, hlead⟩
    rw [textRun_of_atMarkup hmark, hkept]
    rfl
  | case3 kept start pos c rest hlead ih =>
    rw [textRun_of_literal hlead, hkept]
    rfl
  | case4 kept start pos c rest inside hlead hclose =>
    rw [textRun_of_openComment hlead hclose]
  | case5 kept start pos c rest inside hlead skipped after hclose ih =>
    rw [textRun_of_comment hlead hclose]
    exact ih hkept

end Scanner

namespace Cursor

variable {c : Cursor}

/-! ## What a cursor relies on -/

/-- What the steps before have seen still holds: the cursor is in its source, a tag or an
interpolation that is due begins where it stands, and so does a comment that is not open yet. -/
structure Sound (c : Cursor) : Prop where
  at_place : At c.source c.pos c.rest
  markup : c.state = .inTag ∨ c.state = .inInterpolation →
    c.pending = [] ∧
      ∃ markup, AtMarkup c.rest (some markup) ∧ c.state = Scanner.stateBefore (some markup)
  comment : c.state = .inComment → c.depth = 0 → openMark <+: c.rest ∧ c.opened = c.pos
  closed : c.state ≠ .inComment → c.depth = 0

/-- In text nothing is relied on but the place. -/
theorem sound_of_inText (hat : At c.source c.pos c.rest) (hs : c.state = .inText)
    (hdepth : c.depth = 0) : c.Sound where
  at_place := hat
  markup hmarkup := by simp [hs] at hmarkup
  comment hcomment := by simp [hs] at hcomment
  closed _ := hdepth

/-- Between two answers no text waits, and no comment is open. -/
def Settled (c : Cursor) : Prop := c.finished = false → c.pending = [] ∧ c.state ≠ .inComment

theorem settled_of_finished (h : c.finished = true) : c.Settled := fun hf =>
  absurd (hf.symm.trans h) Bool.false_ne_true

def standing (c : Cursor) : Scanner.Standing :=
  ⟨c.state, if c.finished then none else some (c.rest, c.pos)⟩

/-- What the next answer is, and how the cursor stands then. -/
def due (c : Cursor) : Option (Except ScanError Token) × Scanner.Standing :=
  match closeComment c.depth c.rest with
  | none =>
    (some (.error ⟨.unterminatedComment, c.opened.line, c.opened.column⟩), ⟨.inComment, none⟩)
  | some (skipped, after) =>
    Scanner.afterRun (textRun c.pending.reverse c.pendingStart after (c.pos.advance skipped))

/-- The steps that are left at most, before there is an answer. -/
def budget (c : Cursor) : Nat := 2 * c.rest.length + if c.state = .inText then 1 else 0

/-- A step that only goes on leaves what is due as it is. -/
structure GoesOn (c d : Cursor) : Prop where
  sound : d.Sound
  source : d.source = c.source
  unfinished : d.finished = false
  due : d.due = c.due
  budget : d.budget < c.budget

/-- A step that answers gives what is due. -/
structure Answers (c : Cursor) (item : Option (Except ScanError Token)) (d : Cursor) : Prop where
  sound : d.Sound
  source : d.source = c.source
  settled : d.Settled
  due : c.due = (item, d.standing)

/-- A step does what is due. -/
def Outcome.Right (c : Cursor) : Outcome → Prop
  | .goesOn d => c.GoesOn d
  | .answers item d => c.Answers item d

/-- Outside of comments it is a text run that is due. -/
theorem due_eq (h : c.depth = 0) :
    c.due = Scanner.afterRun (textRun c.pending.reverse c.pendingStart c.rest c.pos) := by
  rw [due, h, closeComment]
  rfl

/-! ## Steps in text -/

/-- Text that waits is answered with in front of markup, and at the end. -/
theorem flush_right (h : c.Sound) (hf : c.finished = false) (hs : c.state = .inText)
    {markup : Option Markup} (hmark : AtMarkup c.rest markup)
    (hwaits : c.pending ≠ [] ∨ markup ≠ none) :
    (c.flush (Scanner.stateBefore markup)).Right c := by
  have hdepth : c.depth = 0 := h.closed (by rw [hs]; decide)
  have hcomment : Scanner.stateBefore markup ≠ .inComment := by
    rcases markup with _ | _ | _ <;> simp [Scanner.stateBefore]
  have hfound : ∀ {found}, markup = some found → Scanner.stateBefore markup ≠ .inText := by
    rintro (_ | _) rfl <;> simp [Scanner.stateBefore]
  unfold flush
  by_cases hp : c.pending = []
  · rw [if_pos (by simpa using hp)]
    obtain ⟨found, rfl⟩ := Option.ne_none_iff_exists'.mp (hwaits.resolve_left (absurd hp))
    refine ⟨⟨h.at_place, fun _ => ⟨hp, found, hmark, rfl⟩, fun hs => absurd hs hcomment,
      fun _ => hdepth⟩, rfl, hf, ?_, ?_⟩
    · rw [due_eq hdepth]
      exact due_eq hdepth
    · show 2 * c.rest.length + _ < 2 * c.rest.length + _
      rw [if_neg (hfound rfl), if_pos hs]
      omega
  · rw [if_neg (by simpa using hp)]
    refine ⟨⟨h.at_place, fun hmarkup => ⟨rfl, ?_⟩, fun hs => absurd hs hcomment, fun _ => hdepth⟩,
      rfl, fun _ => ⟨rfl, hcomment⟩, ?_⟩
    · cases markup with
      | none => simp [Scanner.stateBefore] at hmarkup
      | some found => exact ⟨found, hmark, rfl⟩
    · rw [due_eq hdepth, textRun_of_atMarkup hmark]
      simp [Scanner.afterRun, TextRun.token, hp, standing, hf]
      rfl

/-- The tests of a step in text find what the next character begins. -/
theorem stepText_cons {char : Char} {after : List Char} (hrest : c.rest = char :: after) :
    c.stepText =
      match lead char after with
      | .comment _ => .goesOn { c with state := .inComment, depth := 0, opened := c.pos }
      | .markup found => c.flush (Scanner.stateBefore (some found))
      | .literal => .goesOn (c.keep char).advance := by
  obtain ⟨hchar, hafter, -⟩ := char_of_rest_cons hrest
  have hcomment : standsAt openMark c.source c.pos.offset = true ↔ openMark <+: char :: after := by
    rw [standsAt_iff, ← hrest]
    rfl
  have htag : opensTagAt c.source c.pos.offset = opensTag after := opensTagAt_eq hrest
  have hhash : (closingHash c.source (c.pos.offset + 1)).isSome =
      (closeInterpolation after).isSome := by
    rw [closingHash_eq, hafter, Option.isSome_map]
  rw [stepText, hchar]
  simp only [hcomment, htag, hhash]
  cases hlead : lead char after with
  | comment inside =>
    have hmark := eq_of_lead_comment hlead
    rw [if_pos ⟨by cases hmark; rfl, inside, hmark.symm⟩]
  | markup found =>
    have hnot : ¬ (char = '<' ∧ openMark <+: char :: after) := by
      rintro ⟨-, tail, ht⟩
      cases ht
      cases hlead
    have hhead := eq_of_lead_markup hlead
    rw [if_neg hnot]
    rcases found with ⟨afterMark⟩ | ⟨expression, behind⟩
    · rw [if_pos ⟨hhead.1, opensTag_of_lead hlead⟩]
      rfl
    · rw [if_neg (by simp [hhead.1]), closeInterpolation_of_lead hlead, if_pos ⟨hhead.1, rfl⟩]
      rfl
  | literal =>
    rw [if_neg fun h => not_openMark_of_literal hlead h.2, if_neg, if_neg]
    · rintro ⟨rfl, hsome⟩
      obtain ⟨⟨expression, behind⟩, hclose⟩ := Option.isSome_iff_exists.mp hsome
      rw [lead_of_closeInterpolation hclose] at hlead
      cases hlead
    · rintro ⟨rfl, hopens⟩
      rw [lead_of_opensTag hopens] at hlead
      cases hlead

/-- Text goes on up to the next mark. -/
theorem stepText_right (h : c.Sound) (hf : c.finished = false) (hs : c.state = .inText) :
    c.stepText.Right c := by
  have hdepth : c.depth = 0 := h.closed (by rw [hs]; decide)
  rcases hrest : c.rest with _ | ⟨char, after⟩
  · have hmark : AtMarkup c.rest none := hrest
    rw [stepText, (char_of_rest_nil hrest).1]
    by_cases hp : c.pending = []
    · simp only [hp, List.isEmpty_nil, if_true]
      refine ⟨sound_of_inText h.at_place hs hdepth, rfl, settled_of_finished rfl, ?_⟩
      rw [due_eq hdepth, hp, textRun_of_atMarkup hmark]
      simp [Scanner.afterRun, Scanner.readMarkup, Scanner.standing, standing, hs]
    · simp only [List.isEmpty_iff, hp, if_false]
      exact flush_right h hf hs hmark (.inl hp)
  · rw [stepText_cons hrest]
    cases hlead : lead char after with
    | comment inside =>
      have hmark : openMark <+: c.rest := ⟨inside, by rw [hrest, eq_of_lead_comment hlead]⟩
      refine ⟨⟨h.at_place, fun hmarkup => ?_, fun _ _ => ⟨hmark, rfl⟩, fun hs' => absurd rfl hs'⟩,
        rfl, hf, ?_, ?_⟩
      · simp at hmarkup
      · rw [due_eq hdepth]
        exact due_eq rfl
      · show 2 * c.rest.length + 0 < 2 * c.rest.length + _
        rw [if_pos hs]
        omega
    | markup found =>
      exact flush_right h hf hs ⟨char, after, hrest, hlead⟩ (.inr (Option.some_ne_none _))
    | literal =>
      have hkept : (c.keep char).rest = [char] ++ after := hrest
      have hthere : ((c.keep char).past [char]).rest = after := rest_past hkept
      rw [advance_eq hkept]
      refine ⟨sound_of_inText (at_past h.at_place hkept) hs hdepth, rfl, hf, ?_, ?_⟩
      · rw [due_eq hdepth, hrest, textRun_of_literal hlead,
          due_eq (c := (c.keep char).past _) hdepth, hthere]
        simp [past, keep]
      · rw [budget, budget, hthere, hrest]
        simp [past, keep, hs]

/-! ## Steps in comments -/

/-- In passing over a stretch that leaves all comments open or closes the last, what is due remains
what it is. -/
theorem due_of_past {cs after : List Char} {depth : Nat} {state : ScanState}
    (hrest : c.rest = cs ++ after)
    (hclose : closeComment c.depth c.rest =
      (closeComment depth after).map fun split => (cs ++ split.1, split.2)) :
    ({ c.past cs with depth, state }).due = c.due := by
  have hthere : ({ c.past cs with depth, state } : Cursor).rest = after := rest_past hrest
  rw [due, due, hthere, hclose]
  cases closeComment depth after with
  | none => rfl
  | some split =>
    show Scanner.afterRun (textRun _ _ _ ((c.pos.advance cs).advance _)) = _
    rw [← Position.advance_append]
    rfl

/-- At the mark of a comment that is not open yet, the comment is what is due. -/
theorem due_of_openMark {tail : List Char} (hrest : c.rest = openMark ++ tail)
    (hdepth : c.depth = 0) (hopened : c.opened = c.pos) :
    ({ c.past openMark with depth := 1 }).due = c.due := by
  have hthere : ({ c.past openMark with depth := 1 } : Cursor).rest = tail := rest_past hrest
  have hmark : openMark ++ tail = '<' :: '!' :: '-' :: '-' :: '-' :: tail := rfl
  rw [due_eq hdepth, due, hthere, hrest, hmark]
  cases hclose : closeComment 1 tail with
  | none =>
    rw [textRun_of_openComment (lead_openMark tail) hclose, ← hopened]
    rfl
  | some split =>
    rw [textRun_of_comment (lead_openMark tail) hclose, Position.advance_append]
    rfl

/-- A cursor goes on in comments behind what it has passed over, or in text when no comment is open
any more. -/
theorem goesOn_past (h : c.Sound) (hf : c.finished = false) (hs : c.state = .inComment)
    {cs after : List Char} {depth : Nat} {state : ScanState} (hrest : c.rest = cs ++ after)
    (hcs : cs ≠ []) (hstate : state = if depth = 0 then .inText else .inComment)
    (hdue : ({ c.past cs with depth, state }).due = c.due) :
    c.GoesOn { c.past cs with depth, state } := by
  have hthere : ({ c.past cs with depth, state } : Cursor).rest = after := rest_past hrest
  refine ⟨⟨at_past h.at_place hrest, fun hmarkup => ?_, fun hcomment hzero => ?_, fun hout => ?_⟩,
    rfl, hf, hdue, ?_⟩
  · exfalso
    rw [hstate] at hmarkup
    split at hmarkup <;> simp at hmarkup
  · rw [hstate, if_pos hzero] at hcomment
    cases hcomment
  · by_contra hopen
    exact hout (hstate.trans (if_neg hopen))
  · have hlength := List.length_pos_iff.mpr hcs
    rw [budget, budget, hthere, hrest, List.length_append]
    simp only [hs, reduceCtorEq, if_false]
    split <;> omega

/-- A mark that opens a comment is passed over. -/
theorem goesOn_openMark (h : c.Sound) (hf : c.finished = false) (hs : c.state = .inComment)
    {tail : List Char} (hrest : c.rest = openMark ++ tail) :
    c.GoesOn { c.past openMark with depth := c.depth + 1 } := by
  refine goesOn_past h hf hs hrest (List.cons_ne_nil _ _) ?_ ?_
  · rw [if_neg (Nat.succ_ne_zero _)]
    exact hs
  · cases hdepth : c.depth with
    | zero => exact due_of_openMark hrest hdepth (h.comment hs hdepth).2
    | succ depth =>
      refine due_of_past hrest ?_
      rw [hrest, hdepth]
      exact closeComment.eq_3 ..

/-- A mark that closes a comment is passed over, and perhaps there is text behind it. -/
theorem goesOn_closeMark (h : c.Sound) (hf : c.finished = false) (hs : c.state = .inComment)
    {depth : Nat} (hdepth : c.depth = depth + 1) {tail : List Char}
    (hrest : c.rest = closeMark ++ tail) :
    c.GoesOn { c.past closeMark with
      depth, state := if depth = 0 then .inText else .inComment } := by
  refine goesOn_past h hf hs hrest (List.cons_ne_nil _ _) rfl (due_of_past hrest ?_)
  rw [hrest, hdepth]
  exact closeComment.eq_4 ..

/-- A character of a comment is passed over. -/
theorem goesOn_inside (h : c.Sound) (hf : c.finished = false) (hs : c.state = .inComment)
    {depth : Nat} (hdepth : c.depth = depth + 1) {char : Char} {after : List Char}
    (hrest : c.rest = char :: after) (hopen : ¬ openMark <+: c.rest)
    (hclose : ¬ closeMark <+: c.rest) : c.GoesOn (c.past [char]) := by
  have hmove : c.rest = [char] ++ after := hrest
  refine goesOn_past h hf hs hmove (List.cons_ne_nil _ _) ?_ (due_of_past hmove ?_)
  · show c.state = if c.depth = 0 then _ else _
    rw [hs, hdepth, if_neg (Nat.succ_ne_zero _)]
  · show closeComment c.depth c.rest = (closeComment c.depth after).map _
    rw [hrest] at hopen hclose ⊢
    rw [hdepth]
    refine closeComment.eq_5 depth char after ?_ ?_
    · rintro tail rfl rfl
      exact hopen ⟨tail, rfl⟩
    · rintro tail rfl rfl
      exact hclose ⟨tail, rfl⟩

/-- In a comment, a step passes over a mark or a character. -/
theorem stepComment_right (h : c.Sound) (hf : c.finished = false) (hs : c.state = .inComment) :
    ∃ outcome, c.stepComment = .ok outcome ∧ outcome.Right c := by
  have hmarked : ∀ {mark}, standsAt mark c.source c.pos.offset = true ↔ mark <+: c.rest :=
    standsAt_iff
  have hdeep : ¬ openMark <+: c.rest → ∃ depth, c.depth = depth + 1 := fun hopen =>
    Nat.exists_eq_succ_of_ne_zero fun hzero => hopen (h.comment hs hzero).1
  simp only [stepComment, hmarked]
  rcases hrest : c.rest with _ | ⟨char, after⟩
  · obtain ⟨depth, hdepth⟩ := hdeep (by rw [hrest]; decide)
    rw [if_pos (char_of_rest_nil hrest).2]
    refine ⟨_, rfl, ⟨h.at_place, h.markup, h.comment, h.closed⟩, rfl, settled_of_finished rfl, ?_⟩
    rw [due, hrest, hdepth, closeComment]
    show _ = (_, Scanner.Standing.mk c.state none)
    rw [hs]
  · rw [if_neg (Nat.not_le.mpr (char_of_rest_cons hrest).2.2), ← hrest]
    by_cases hopen : openMark <+: c.rest
    · rw [if_pos hopen]
      obtain ⟨tail, htail⟩ := hopen
      have hopened : ({ c with depth := c.depth + 1 } : Cursor).rest = openMark ++ tail :=
        htail.symm
      rw [advanceBy_eq hopened]
      exact ⟨_, rfl, goesOn_openMark h hf hs htail.symm⟩
    · rw [if_neg hopen]
      obtain ⟨depth, hdepth⟩ := hdeep hopen
      by_cases hclose : closeMark <+: c.rest
      · have hminus : minus? c.depth 1 = .ok depth := by
          rw [hdepth, Nat.add_comm]
          exact minus?_add 1 depth
        rw [if_pos hclose, hminus]
        obtain ⟨tail, htail⟩ := hclose
        have hclosed : ∀ state, ({ c with depth, state } : Cursor).rest = closeMark ++ tail :=
          fun _ => htail.symm
        exact ⟨_, congrArg (Except.ok ∘ Outcome.goesOn) (advanceBy_eq (hclosed _)),
          goesOn_closeMark h hf hs hdepth htail.symm⟩
      · rw [if_neg hclose, advance_eq hrest]
        exact ⟨_, rfl, goesOn_inside h hf hs hdepth hrest hopen hclose⟩

/-! ## Steps over markup -/

/-- Where a tag is due, one begins. -/
theorem Sound.tag (h : c.Sound) (hs : c.state = .inTag) :
    ∃ afterMark, c.rest = '<' :: afterMark ∧ opensTag afterMark = true ∧
      AtMarkup c.rest (some (.tag afterMark)) := by
  obtain ⟨-, markup, hmark, hstate⟩ := h.markup (.inl hs)
  rw [hs] at hstate
  rcases markup with ⟨afterMark⟩ | ⟨expression, after⟩
  · obtain ⟨char, after, hrest, hlead⟩ := id hmark
    obtain ⟨rfl, rfl⟩ := eq_of_lead_markup hlead
    exact ⟨after, hrest, opensTag_of_lead hlead, hmark⟩
  · cases hstate

/-- Where an interpolation is due, one begins. -/
theorem Sound.interpolation (h : c.Sound) (hs : c.state = .inInterpolation) :
    ∃ expression after, c.rest = '#' :: (expression ++ '#' :: after) ∧
      closeInterpolation (expression ++ '#' :: after) = some (expression, after) ∧
      AtMarkup c.rest (some (.interpolation expression after)) := by
  obtain ⟨-, markup, hmark, hstate⟩ := h.markup (.inr hs)
  rw [hs] at hstate
  rcases markup with ⟨afterMark⟩ | ⟨expression, behind⟩
  · cases hstate
  · obtain ⟨char, after, hrest, hlead⟩ := id hmark
    obtain ⟨rfl, rfl⟩ := eq_of_lead_markup hlead
    exact ⟨expression, behind, hrest, closeInterpolation_of_lead hlead, hmark⟩

/-- In front of markup it is the markup that is due. -/
theorem due_of_atMarkup {markup : Option Markup} (hmark : AtMarkup c.rest markup)
    (hdepth : c.depth = 0) (hp : c.pending = []) :
    c.due =
      let answer := Scanner.readMarkup c.rest c.pos markup
      (answer.1, answer.2.standing) := by
  rw [due_eq hdepth, hp, textRun_of_atMarkup hmark]
  rfl

/-- A token that takes a stretch of what is left is taken from there. -/
theorem take_right (h : c.Sound) (hf : c.finished = false) (hs : c.state ≠ .inComment)
    (hp : c.pending = []) {lexeme after : List Char} {kind : Token.Kind} {stop : Nat}
    (hrest : c.rest = lexeme ++ after) (hstop : stop + 1 = c.pos.offset + lexeme.length)
    (hdue : c.due =
      let answer := Scanner.take kind lexeme after c.pos
      (answer.1, answer.2.standing)) :
    ∃ outcome, c.take stop kind = .ok outcome ∧ outcome.Right c := by
  have hat : At c.source c.pos (lexeme ++ after) := hrest ▸ h.at_place
  rw [take, hstop, stretch?_of_at hat, minus?_add]
  dsimp only [bind, Except.bind]
  rw [advanceBy_eq hrest]
  have hthere : ({ c.past lexeme with state := .inText } : Cursor).rest = after := rest_past hrest
  refine ⟨_, rfl, sound_of_inText (at_past h.at_place hrest) rfl (h.closed hs), rfl,
    fun _ => ⟨hp, nofun⟩, ?_⟩
  rw [hdue, standing, hthere]
  show _ = (_, Scanner.Standing.mk .inText (if c.finished then none else _))
  rw [hf]
  rfl

/-- What stands behind the first character of what is left can be taken. -/
theorem stretch?_behind (h : c.Sound) {char : Char} {cs after : List Char}
    (hrest : c.rest = char :: (cs ++ after)) :
    stretch? c.source (c.pos.offset + 1) (c.pos.offset + 1 + cs.length) = .ok cs := by
  have hone : c.rest = [char] ++ (cs ++ after) := hrest
  have hat := at_past h.at_place hone
  rw [rest_past hone] at hat
  simpa [past] using stretch?_of_at hat

/-- A tag is found to end, or it does not end. -/
theorem stepTag_right (h : c.Sound) (hf : c.finished = false) (hs : c.state = .inTag) :
    ∃ outcome, c.stepTag = .ok outcome ∧ outcome.Right c := by
  obtain ⟨afterMark, hrest, -, hmark⟩ := h.tag hs
  have hp := (h.markup (.inl hs)).1
  have hout : c.state ≠ .inComment := by rw [hs]; decide
  have hdue := due_of_atMarkup hmark (h.closed hout) hp
  rw [stepTag, tagEnd_eq, (char_of_rest_cons hrest).2.1]
  rw [Scanner.readMarkup] at hdue
  cases hclose : closeTag afterMark with
  | none =>
    rw [hclose] at hdue
    refine ⟨_, rfl, ⟨h.at_place, h.markup, h.comment, h.closed⟩, rfl, settled_of_finished rfl, ?_⟩
    rw [hdue, standing, hs]
    rfl
  | some split =>
    obtain ⟨inside, after⟩ := split
    have hinside := closeTag_append hclose
    rw [hclose] at hdue
    rw [← hinside] at hrest
    simp only [Option.map_some, stretch?_behind h hrest, kindOfTag?_eq]
    have hlexeme : c.rest = '<' :: inside ++ ['>'] ++ after := by
      rw [hrest]
      simp
    refine take_right h hf hout hp hlexeme ?_ hdue
    simp
    omega

/-- An interpolation is always found to end. -/
theorem stepInterpolation_right (h : c.Sound) (hf : c.finished = false)
    (hs : c.state = .inInterpolation) :
    ∃ outcome, c.stepInterpolation = .ok outcome ∧ outcome.Right c := by
  obtain ⟨expression, after, hrest, hclose, hmark⟩ := h.interpolation hs
  have hp := (h.markup (.inr hs)).1
  have hout : c.state ≠ .inComment := by rw [hs]; decide
  have hdue := due_of_atMarkup hmark (h.closed hout) hp
  rw [stepInterpolation, closingHash_eq, (char_of_rest_cons hrest).2.1, hclose]
  simp only [Option.map_some, Option.getD_some, stretch?_behind h hrest]
  have hlexeme : c.rest = '#' :: expression ++ ['#'] ++ after := by
    rw [hrest]
    simp
  refine take_right h hf hout hp hlexeme ?_ hdue
  simp
  omega

/-- Each step can be taken, and does what is due. -/
theorem step_right (h : c.Sound) (hf : c.finished = false) :
    ∃ outcome, c.step = .ok outcome ∧ outcome.Right c := by
  unfold step
  cases hs : c.state with
  | inText => exact ⟨_, rfl, stepText_right h hf hs⟩
  | inComment => exact stepComment_right h hf hs
  | inTag => exact stepTag_right h hf hs
  | inInterpolation => exact stepInterpolation_right h hf hs

theorem right_of_step {outcome : Outcome} (h : c.Sound) (hf : c.finished = false)
    (hstep : c.step = .ok outcome) : outcome.Right c := by
  obtain ⟨outcome', hstep', hright⟩ := step_right h hf
  rw [hstep] at hstep'
  cases hstep'
  exact hright

end Cursor

end TagTemplate
