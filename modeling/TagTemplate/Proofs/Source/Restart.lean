import TagTemplate.Proofs.Source.Account
import TagTemplate.Proofs.Source.CursorRuns

/-!
# Scanning a source from within

Behind a token, a scanner can be replaced by a new one that is given only what is left of the
source: the two go on in step, and answer the same but for the places, which the new scanner counts
from its own start (`calls_behind`). What the old scanner has read by then shows in its state at
most, and there it says no more than what comes next (`Foretells`). A cursor keeps no more of it
than that either: no text waits in it behind a token.
-/

namespace TagTemplate

/-! ## Places counted from a start further on -/

/-- A column behind a place: columns are shifted in the line of that place only, which is the first
line behind it. -/
def Position.columnBehind (origin : Position) (line column : Nat) : Nat :=
  if line = 1 then column + (origin.column - 1) else column

/-- The first place is the second one, counted behind the origin. -/
structure Position.Behind (origin p p' : Position) : Prop where
  offset : p.offset = p'.offset + origin.offset
  line : p.line = p'.line + (origin.line - 1)
  column : p.column = origin.columnBehind p'.line p'.column
  positive : 0 < p'.line

/-- The span, counted behind the origin. -/
def Span.behind (origin : Position) (span : Span) : Span :=
  ⟨span.start + origin.offset, span.stop + origin.offset, span.line + (origin.line - 1),
    origin.columnBehind span.line span.column⟩

/-- The token or fault, counted behind the origin. -/
def Scanner.itemBehind (origin : Position) : Except ScanError Token → Except ScanError Token
  | .ok token => .ok (token.relocate (.behind origin))
  | .error e =>
    .error ⟨e.fault, e.line + (origin.line - 1), origin.columnBehind e.line e.column⟩

namespace Position.Behind

variable {origin p p' q q' : Position}

/-- A place in a source stands behind itself where a new count starts. -/
theorem start {source rest : List Char} (h : At source origin rest) :
    Behind origin origin .start where
  offset := (Nat.zero_add _).symm
  line := by
    have hline := h.line_eq
    show origin.line = 1 + (origin.line - 1)
    omega
  column := by
    have hcolumn := h.column_eq
    show origin.column = 1 + (origin.column - 1)
    omega
  positive := Nat.one_pos

theorem step (h : Behind origin p p') (c : Char) : Behind origin (p.step c) (p'.step c) := by
  obtain ⟨hoffset, hline, hcolumn, hpositive⟩ := h
  unfold Position.step
  split
  · refine ⟨?_, ?_, ?_, Nat.succ_pos _⟩
    · show p.offset + 1 = p'.offset + 1 + origin.offset
      omega
    · show p.line + 1 = p'.line + 1 + (origin.line - 1)
      omega
    · exact (if_neg (Nat.ne_of_gt (Nat.succ_lt_succ hpositive))).symm
  · refine ⟨?_, hline, ?_, hpositive⟩
    · show p.offset + 1 = p'.offset + 1 + origin.offset
      omega
    · show p.column + 1 = origin.columnBehind p'.line (p'.column + 1)
      rw [hcolumn, columnBehind, columnBehind]
      split <;> omega

theorem advance (h : Behind origin p p') (cs : List Char) :
    Behind origin (p.advance cs) (p'.advance cs) := by
  induction cs generalizing p p' with
  | nil => exact h
  | cons c cs ih => exact ih (h.step c)

theorem between (hp : Behind origin p p') (hq : Behind origin q q') :
    Span.between p q = (Span.between p' q').behind origin := by
  rw [Span.between, hp.offset, hp.line, hp.column, hq.offset]
  rfl

end Position.Behind

variable {origin : Position}

/-- The first text run is the second one, counted behind the origin. -/
structure TextRun.Behind (origin : Position) (run run' : TextRun) : Prop where
  text : run.text = run'.text
  markup : run.markup = run'.markup
  rest : run.rest = run'.rest
  start : origin.Behind run.start run'.start
  stop : origin.Behind run.stop run'.stop

/-- A text run is the same wherever it is read, but for the places. -/
theorem textRun_behind (kept rest : List Char) {start start' pos pos' : Position}
    (hstart : origin.Behind start start') (hpos : origin.Behind pos pos') :
    (∃ p p', textRun kept start rest pos = .error p ∧ textRun kept start' rest pos' = .error p' ∧
      origin.Behind p p') ∨
    ∃ run run', textRun kept start rest pos = .ok run ∧ textRun kept start' rest pos' = .ok run' ∧
      run.Behind origin run' := by
  fun_induction textRun kept start rest pos generalizing start' pos' with
  | case1 kept start pos =>
    rw [textRun]
    exact .inr ⟨_, _, rfl, rfl, rfl, rfl, rfl, hstart, hpos⟩
  | case2 kept start pos c rest markup hlead =>
    have hmark : AtMarkup (c :: rest) (some markup) := ⟨c, rest, rfl, hlead⟩
    rw [textRun_of_atMarkup hmark]
    exact .inr ⟨_, _, rfl, rfl, rfl, rfl, rfl, hstart, hpos⟩
  | case3 kept start pos c rest hlead ih =>
    rw [textRun_of_literal hlead]
    refine ih ?_ (hpos.step c)
    split
    · exact hpos
    · exact hstart
  | case4 kept start pos c rest inside hlead hclose =>
    rw [textRun_of_openComment hlead hclose]
    exact .inl ⟨_, _, rfl, rfl, hpos⟩
  | case5 kept start pos c rest inside hlead skipped after hclose ih =>
    rw [textRun_of_comment hlead hclose]
    exact ih hstart (hpos.advance _)

/-- A tag, be it opening or closing. -/
def Token.Kind.isTag : Token.Kind → Bool
  | .tagOpen .. | .tagClose _ => true
  | .text _ | .interpolation _ => false

theorem isTag_ofTag (inside : List Char) : (Token.Kind.ofTag inside).isTag = true := by
  unfold Token.Kind.ofTag
  split
  · rfl
  · dsimp only
    split <;> rfl

theorem isTag_ne_interpolation {kind : Token.Kind} (h : kind.isTag = true) (expression : String) :
    kind ≠ .interpolation expression := by
  rintro rfl
  cases h

namespace Scanner

/-! ## Two scanners in step -/

variable {s s' : Scanner}

theorem fault_behind {p p' : Position} (h : origin.Behind p p') (fault : ScanFault) :
    .error ⟨fault, p.line, p.column⟩ = itemBehind origin (.error ⟨fault, p'.line, p'.column⟩) := by
  rw [h.line, h.column]
  rfl

theorem token_behind {p p' q q' : Position} (hp : origin.Behind p p') (hq : origin.Behind q q')
    (kind : Token.Kind) (lexeme : String) :
    .ok ⟨kind, .between p q, lexeme⟩ = itemBehind origin (.ok ⟨kind, .between p' q', lexeme⟩) := by
  rw [hp.between hq]
  rfl

/-- Two scanners that have the same left, the first one at a place that is that of the second one
behind the origin. What they know to come next is left open. -/
structure Behind (origin : Position) (s s' : Scanner) : Prop where
  rest : s.rest = s'.rest
  pos : origin.Behind s.pos s'.pos
  finished : s.finished = s'.finished

/-- The first answer is the second one, counted behind the origin, and the scanners after it go on
in step. -/
structure AnswersBehind (origin : Position)
    (answer answer' : Option (Except ScanError Token) × Scanner) : Prop where
  item : answer.1 = answer'.1.map (itemBehind origin)
  scanner : Behind origin answer.2 answer'.2

theorem take_behind {pos pos' : Position} (hpos : origin.Behind pos pos') (kind : Token.Kind)
    (lexeme after : List Char) :
    AnswersBehind origin (take kind lexeme after pos) (take kind lexeme after pos') where
  item := congrArg some (token_behind hpos (hpos.advance lexeme) kind _)
  scanner := ⟨rfl, hpos.advance lexeme, rfl⟩

theorem readMarkup_behind {pos pos' : Position} (hpos : origin.Behind pos pos') (rest : List Char)
    (markup : Option Markup) :
    AnswersBehind origin (readMarkup rest pos markup) (readMarkup rest pos' markup) := by
  rcases markup with _ | ⟨afterMark⟩ | ⟨expression, after⟩
  · exact ⟨rfl, rfl, hpos, rfl⟩
  · rw [readMarkup, readMarkup]
    cases closeTag afterMark with
    | none => exact ⟨congrArg some (fault_behind hpos _), rfl, hpos, rfl⟩
    | some split => exact take_behind hpos ..
  · exact take_behind hpos ..

/-- Two scanners go on in step. -/
theorem next_behind (h : Behind origin s s') : AnswersBehind origin s.next s'.next := by
  unfold next
  rw [h.finished]
  by_cases hf : s'.finished = true
  · rw [if_pos hf, if_pos hf]
    exact ⟨rfl, h⟩
  · rw [if_neg hf, if_neg hf, h.rest]
    rcases textRun_behind [] s'.rest h.pos h.pos with
      ⟨p, p', hrun, hrun', hplace⟩ | ⟨run, run', hrun, hrun', hsame⟩
    · rw [hrun, hrun']
      exact ⟨congrArg some (fault_behind hplace _), rfl, h.pos, rfl⟩
    · rw [hrun, hrun']
      dsimp only
      rw [hsame.text, hsame.markup, hsame.rest]
      split
      · exact readMarkup_behind hsame.stop ..
      · exact ⟨congrArg some (token_behind hsame.start hsame.stop _ _), rfl, hsame.stop, rfl⟩

/-- They answer any number of calls alike. -/
theorem calls_behind (h : Behind origin s s') (n : Nat) :
    (s.calls n).1 = (s'.calls n).1.map (Option.map (itemBehind origin)) := by
  induction n generalizing s s' with
  | zero => rfl
  | succ n ih =>
    have hnext := next_behind h
    rw [calls, calls, hnext.item, ih hnext.scanner]
    rfl

/-! ## Behind a token -/

/-- The calls that come last are made behind those in front of them. -/
theorem calls_succ (s : Scanner) (n : Nat) :
    s.calls (n + 1) =
      ((s.calls n).1 ++ [(s.calls n).2.next.1], (s.calls n).2.next.2) := by
  induction n generalizing s with
  | zero => rfl
  | succ n ih =>
    rw [calls, ih]
    rfl

/-- The state tells what comes next: nothing, an interpolation, or a tag, be it one that does not
end. -/
structure Foretells (s : Scanner) : Prop where
  nothing : s.state = .inText ↔ s.next.1 = none
  interpolation : s.state = .inInterpolation ↔
    ∃ token expression, s.next.1 = some (.ok token) ∧ token.kind = .interpolation expression
  tag : s.state = .inTag ↔ (∃ token, s.next.1 = some (.ok token) ∧ token.kind.isTag = true) ∨
    ∃ e, s.next.1 = some (.error e) ∧ e.fault = .unterminatedTag
  comment : s.state ≠ .inComment

/-- A scanner that stops text in front of markup foretells that markup. -/
theorem foretells_of_atMarkup {markup : Option Markup} (hf : s.finished = false)
    (hmark : AtMarkup s.rest markup) (hstate : s.state = stateBefore markup) : s.Foretells := by
  have hnext := next_of_atMarkup hf hmark
  rcases markup with _ | ⟨afterMark⟩ | ⟨expression, after⟩
  · rw [readMarkup] at hnext
    constructor <;> simp [hstate, hnext, stateBefore]
  · rw [readMarkup] at hnext
    cases hclose : closeTag afterMark with
    | none =>
      rw [hclose] at hnext
      constructor <;> simp [hstate, hnext, stateBefore]
    | some split =>
      rw [hclose] at hnext
      have hkind := isTag_ofTag split.1
      constructor <;>
        simp [hstate, hnext, stateBefore, take, hkind, isTag_ne_interpolation hkind]
  · rw [readMarkup] at hnext
    constructor <;> simp [hstate, hnext, stateBefore, take, Token.Kind.isTag]

/-- Behind text the state tells what comes next, and behind other tokens it tells nothing. -/
theorem state_of_next_token {token : Token} (h : s.next = (some (.ok token), s')) :
    (token.isText = true → s'.Foretells) ∧ (token.isText = false → s'.state = .inText) := by
  unfold next at h
  split at h
  · cases h
  · cases hrun : textRun [] s.pos s.rest s.pos with
    | error p =>
      rw [hrun] at h
      cases h
    | ok run =>
      rw [hrun] at h
      dsimp only at h
      split at h
      · rcases hmarkup : run.markup with _ | ⟨afterMark⟩ | ⟨expression, after⟩
        · rw [hmarkup] at h
          cases h
        · rw [hmarkup, readMarkup] at h
          cases hclose : closeTag afterMark with
          | none =>
            rw [hclose] at h
            cases h
          | some split =>
            rw [hclose] at h
            cases h
            refine ⟨fun htext => ?_, fun _ => rfl⟩
            rw [isText_of_ne_text (ofTag_ne_text _)] at htext
            cases htext
        · rw [hmarkup] at h
          cases h
          exact ⟨fun htext => absurd htext Bool.false_ne_true, fun _ => rfl⟩
      · cases h
        refine ⟨fun _ => foretells_of_atMarkup rfl (atMarkup_of_textRun hrun) rfl, fun hother => ?_⟩
        exact absurd hother.symm Bool.false_ne_true

/-- Behind some tokens a scanner has not come to its end, and its state is that behind the last of
them. -/
theorem stands_behind_tokens {source : String} {tokens : List Token} {s : Scanner}
    (h : (ofSource source).calls tokens.length = (tokens.map fun token => some (.ok token), s)) :
    s.finished = false ∧ (tokens.getLast?.any Token.isText = true → s.Foretells) ∧
      (tokens.getLast?.any Token.isText = false → s.state = .inText) := by
  rcases tokens.eq_nil_or_concat with rfl | ⟨before, token, rfl⟩
  · cases h
    exact ⟨rfl, nofun, fun _ => rfl⟩
  · rw [List.concat_eq_append, List.length_append, List.length_singleton, calls_succ,
      List.map_append] at h
    obtain ⟨hitems, rfl⟩ := Prod.mk.inj h
    have hitem := List.head_eq_of_cons_eq (List.append_inj' hitems rfl).2
    have hstate := state_of_next_token (Prod.ext hitem rfl)
    rw [List.concat_eq_append, List.getLast?_concat]
    refine ⟨?_, hstate⟩
    rw [finished_next, hitem]
    rfl

/-- Behind any number of tokens a scanner answers what a new scanner answers that is given what is
left of the source, but for the places, which are shifted to where the old one stands. Its state
tells what comes next behind text, and nothing behind other tokens. A cursor that has answered with
the same tokens stands there as well, with no text waiting, and goes on like the scanner. -/
theorem restarts_behind_tokens {source : String} {tokens : List Token} {s : Scanner}
    (h : (ofSource source).calls tokens.length = (tokens.map fun token => some (.ok token), s)) :
    At source.toList s.pos s.rest ∧
      (∀ n, (s.calls n).1 =
        ((ofSource (String.ofList s.rest)).calls n).1.map (Option.map (itemBehind s.pos))) ∧
      (tokens.getLast?.any Token.isText = true → s.Foretells) ∧
      (tokens.getLast?.any Token.isText = false → s.state = .inText) ∧
      ∃ c, (Cursor.ofSource source).calls tokens.length =
          .ok (tokens.map fun token => some (.ok token), c) ∧
        c.pos = s.pos ∧ c.rest = s.rest ∧ c.state = s.state ∧ c.pending = [] ∧
        ∀ n, ∃ d, c.calls n = .ok ((s.calls n).1, d) := by
  obtain ⟨hf, htext, hother⟩ := stands_behind_tokens h
  obtain ⟨c, hcalls, hmirrors, hsource⟩ :=
    Cursor.calls_mirrors (Cursor.mirrors_ofSource source) tokens.length
  rw [h] at hcalls hmirrors
  have hcf : c.finished = false := hmirrors.finished_eq.trans hf
  obtain ⟨hrest, hpos⟩ := hmirrors.place_eq hcf
  have hat : At source.toList s.pos s.rest := by
    have hat := hmirrors.sound.at_place
    rwa [hsource, hrest, hpos] at hat
  have hstep : Behind s.pos s (ofSource (String.ofList s.rest)) :=
    ⟨(String.toList_ofList).symm, .start hat, hf⟩
  refine ⟨hat, calls_behind hstep, htext, hother, c, hcalls, hpos, hrest, ?_,
    (hmirrors.settled hcf).1, fun n => ?_⟩
  · exact congrArg Standing.state hmirrors.standing
  · obtain ⟨d, hd, -⟩ := Cursor.calls_mirrors hmirrors n
    exact ⟨d, hd⟩

/-- Behind the text of a source whose tag does not end, a new scanner finds the same fault at its
own first character. -/
theorem restarts_behind_text :
    let s : Scanner := ⟨"<p x".toList, ⟨3, 2, 2⟩, .inTag, false⟩
    (ofSource "a\nb<p x").calls 1 =
        ([some (.ok ⟨.text "a\nb", ⟨0, 3, 1, 1⟩, "a\nb"⟩)], s) ∧
      (s.calls 2).1 = ((ofSource "<p x").calls 2).1.map (Option.map (itemBehind ⟨3, 2, 2⟩)) ∧
      ((ofSource "<p x").calls 2).1 = [some (.error ⟨.unterminatedTag, 1, 1⟩), none] ∧
      s.Foretells := by
  have hcalls : (ofSource "a\nb<p x").calls 1 =
      ([some (.ok ⟨.text "a\nb", ⟨0, 3, 1, 1⟩, "a\nb"⟩)],
        ⟨"<p x".toList, ⟨3, 2, 2⟩, .inTag, false⟩) := by
    decide +kernel
  obtain ⟨-, hanswers, htext, -⟩ :=
    @restarts_behind_tokens _ [⟨.text "a\nb", ⟨0, 3, 1, 1⟩, "a\nb"⟩] _ hcalls
  exact ⟨hcalls, hanswers 2, by decide +kernel, htext rfl⟩

end Scanner

end TagTemplate
