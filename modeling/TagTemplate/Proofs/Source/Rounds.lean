import Mathlib.Control.Monad.Basic
import TagTemplate.Source.Scanner

/-!
# Scanning in rounds

A scanner yields one token at a time, and a token of text leaves it in front of the markup that
ended the text. Proofs go by rounds instead: a round is a text run, which may be empty, and the
markup after it, if there is any. `itemsAt_eq_round` cuts the items of a source into those of its
first round and those of what is left, which is shorter.

What a scanner yields depends on where it stands and on what is left there, and not on what it
knows to come next (`items_eq_itemsAt`).
-/

namespace TagTemplate

/-! ## Where a text run ends -/

/-- What is left begins with the markup, or is nothing where there is no markup. -/
def AtMarkup (rest : List Char) : Option Markup → Prop
  | none => rest = []
  | some markup => ∃ c after, rest = c :: after ∧ lead c after = .markup markup

/-- A text run stops in front of the markup that it tells. -/
theorem atMarkup_of_textRun {kept rest : List Char} {start pos : Position} {run : TextRun}
    (h : textRun kept start rest pos = .ok run) : AtMarkup run.rest run.markup := by
  fun_induction textRun kept start rest pos with
  | case1 kept start pos =>
    cases h
    rfl
  | case2 kept start pos c rest markup hl =>
    cases h
    exact ⟨c, rest, rfl, hl⟩
  | case3 _ _ _ _ _ _ ih => exact ih h
  | case4 => cases h
  | case5 _ _ _ _ _ _ _ _ _ _ ih => exact ih h

/-- In front of markup no text is left to read. -/
theorem textRun_of_atMarkup {rest : List Char} {markup : Option Markup} (h : AtMarkup rest markup)
    (kept : List Char) (start pos : Position) :
    textRun kept start rest pos = .ok ⟨kept.reverse, start, markup, rest, pos⟩ := by
  cases markup with
  | none =>
    rw [show rest = [] from h, textRun]
  | some markup =>
    obtain ⟨c, after, rfl, hl⟩ := h
    rw [textRun]
    split
    · next hm => rw [hl] at hm; cases hm; rfl
    · next hm => rw [hl] at hm; cases hm
    · next hm => rw [hl] at hm; cases hm

/-- A literal character is kept, and the run goes on after it. -/
theorem textRun_of_literal {c : Char} {rest : List Char} (h : lead c rest = .literal)
    (kept : List Char) (start pos : Position) :
    textRun kept start (c :: rest) pos =
      textRun (c :: kept) (if kept.isEmpty then pos else start) rest (pos.step c) := by
  rw [textRun]
  split
  · next hm => rw [h] at hm; cases hm
  · rfl
  · next hm => rw [h] at hm; cases hm

/-! ## Rounds -/

/-- The token of a text run. -/
def TextRun.token (run : TextRun) : Token :=
  ⟨.text (String.ofList run.text), .between run.start run.stop, String.ofList run.text⟩

/-- The tokens of a text run: one, or none for a run without text. -/
def TextRun.tokens (run : TextRun) : List Token :=
  if run.text.isEmpty then [] else [run.token]

namespace Scanner

/-- The items of what is left at a place in text. -/
def itemsAt (rest : List Char) (pos : Position) : List (Except ScanError Token) :=
  (inText rest pos).items

/-- The items from the markup on that stands at a place. -/
def itemsFromMarkup (pos : Position) : Option Markup → List (Except ScanError Token)
  | none => []
  | some (.interpolation expression after) =>
    let lexeme := '#' :: expression ++ ['#']
    let stop := pos.advance lexeme
    .ok ⟨.interpolation (String.ofList expression), .between pos stop, String.ofList lexeme⟩ ::
      itemsAt after stop
  | some (.tag afterMark) =>
    match closeTag afterMark with
    | none => [.error ⟨.unterminatedTag, pos.line, pos.column⟩]
    | some (inside, after) =>
      let lexeme := '<' :: inside ++ ['>']
      let stop := pos.advance lexeme
      .ok ⟨.ofTag inside, .between pos stop, String.ofList lexeme⟩ :: itemsAt after stop

/-- A token is followed by the items after it. -/
theorem items_of_next_token {s after : Scanner} {token : Token}
    (h : s.next = (some (.ok token), after)) : s.items = .ok token :: after.items := by
  rw [items]
  split
  · next hn => rw [h] at hn; cases hn; rfl
  · next hn => rw [h] at hn; cases hn
  · next hn => rw [h] at hn; cases hn

/-- A fault is the last item. -/
theorem items_of_next_error {s after : Scanner} {e : ScanError}
    (h : s.next = (some (.error e), after)) : s.items = [.error e] := by
  rw [items]
  split
  · next hn => rw [h] at hn; cases hn
  · next hn => rw [h] at hn; cases hn; rfl
  · next hn => rw [h] at hn; cases hn

/-- Where nothing comes next, there are no items. -/
theorem items_of_next_none {s after : Scanner} (h : s.next = (none, after)) : s.items = [] := by
  rw [items]
  split
  · next hn => rw [h] at hn; cases hn
  · next hn => rw [h] at hn; cases hn
  · rfl

/-- Reading the markup in front of a scanner makes the items from that markup on. -/
theorem items_of_readMarkup {s : Scanner} {rest : List Char} {pos : Position}
    {markup : Option Markup} (h : s.next = readMarkup rest pos markup) :
    s.items = itemsFromMarkup pos markup := by
  rcases markup with _ | ⟨afterMark⟩ | ⟨expression, after⟩
  · exact items_of_next_none h
  · rw [readMarkup] at h
    rw [itemsFromMarkup]
    rcases hc : closeTag afterMark with _ | ⟨inside, after⟩
    · rw [hc] at h
      exact items_of_next_error h
    · rw [hc] at h
      exact items_of_next_token h
  · exact items_of_next_token h

/-- In front of markup it is the markup that is read next. -/
theorem next_of_atMarkup {s : Scanner} {markup : Option Markup} (hf : s.finished = false)
    (h : AtMarkup s.rest markup) : s.next = readMarkup s.rest s.pos markup := by
  rw [next, textRun_of_atMarkup h]
  simp [hf]

/-- In front of markup, a scanner goes on with that markup. -/
theorem items_of_atMarkup {s : Scanner} {markup : Option Markup} (hf : s.finished = false)
    (h : AtMarkup s.rest markup) : s.items = itemsFromMarkup s.pos markup :=
  items_of_readMarkup (next_of_atMarkup hf h)

/-- A comment that never ends is all that comes of a text run that meets it. -/
theorem items_of_textRun_error {s : Scanner} {pos : Position} (hf : s.finished = false)
    (h : textRun [] s.pos s.rest s.pos = .error pos) :
    s.items = [.error ⟨.unterminatedComment, pos.line, pos.column⟩] := by
  have hnext : s.next = (some (.error ⟨.unterminatedComment, pos.line, pos.column⟩),
      { s with state := .inComment, finished := true }) := by
    rw [next, h]
    simp [hf]
  exact items_of_next_error hnext

/-- The items of a scanner are those of its first round: the text run, and all from the markup on
that ends it. -/
theorem items_of_textRun {s : Scanner} {run : TextRun} (hf : s.finished = false)
    (h : textRun [] s.pos s.rest s.pos = .ok run) :
    s.items = run.tokens.map .ok ++ itemsFromMarkup run.stop run.markup := by
  by_cases he : run.text.isEmpty = true
  · have hn : s.next = readMarkup run.rest run.stop run.markup := by simp [next, hf, h, he]
    rw [items_of_readMarkup hn, TextRun.tokens, if_pos he]
    rfl
  · have hn : s.next =
        (some (.ok run.token), ⟨run.rest, run.stop, stateBefore run.markup, false⟩) := by
      simp [next, hf, h, he, TextRun.token]
    rw [items_of_next_token hn, TextRun.tokens, if_neg he]
    rw [items_of_atMarkup rfl (atMarkup_of_textRun h)]
    rfl

/-- What a scanner knows to come next has no bearing on what it yields. -/
theorem items_eq_itemsAt {s : Scanner} (hf : s.finished = false) :
    s.items = itemsAt s.rest s.pos := by
  rw [itemsAt]
  match h : textRun [] s.pos s.rest s.pos with
  | .error pos =>
    rw [items_of_textRun_error hf h, items_of_textRun_error (s := inText s.rest s.pos) rfl h]
  | .ok run => rw [items_of_textRun hf h, items_of_textRun (s := inText s.rest s.pos) rfl h]

/-- No text is left to tokenize in front of a comment that never ends. -/
theorem itemsAt_of_error {rest : List Char} {pos p : Position}
    (h : textRun [] pos rest pos = .error p) :
    itemsAt rest pos = [.error ⟨.unterminatedComment, p.line, p.column⟩] :=
  items_of_textRun_error rfl h

/-- The first round of what is left at a place in text, and the items after it. -/
theorem itemsAt_eq_round {rest : List Char} {pos : Position} {run : TextRun}
    (h : textRun [] pos rest pos = .ok run) :
    itemsAt rest pos = run.tokens.map .ok ++ itemsFromMarkup run.stop run.markup :=
  items_of_textRun rfl h

/-- What stands between `<` and `>` is no text. -/
theorem ofTag_ne_text (inside : List Char) (text : String) :
    Token.Kind.ofTag inside ≠ .text text := by
  unfold Token.Kind.ofTag
  split
  · simp
  · simp only
    split <;> simp

/-- Markup is a tag without end, or a token that takes its lexeme from what is left, and the items
after it. -/
theorem itemsFromMarkup_cases {rest : List Char} {markup : Markup} (pos : Position)
    (h : AtMarkup rest (some markup)) :
    itemsFromMarkup pos (some markup) = [.error ⟨.unterminatedTag, pos.line, pos.column⟩] ∨
      ∃ kind lexeme after, rest = lexeme ++ after ∧ lexeme ≠ [] ∧ (∀ text, kind ≠ .text text) ∧
        itemsFromMarkup pos (some markup) =
          .ok ⟨kind, .between pos (pos.advance lexeme), String.ofList lexeme⟩ ::
            itemsAt after (pos.advance lexeme) := by
  obtain ⟨c, inner, rfl, hl⟩ := h
  have hhead := eq_of_lead_markup hl
  rcases markup with ⟨afterMark⟩ | ⟨expression, after⟩
  · obtain ⟨rfl, rfl⟩ := hhead
    rw [itemsFromMarkup]
    rcases hc : closeTag inner with _ | ⟨inside, after⟩
    · exact Or.inl rfl
    · refine Or.inr ⟨.ofTag inside, '<' :: inside ++ ['>'], after, ?_, by simp,
        ofTag_ne_text inside, rfl⟩
      simp [← closeTag_append hc]
  · obtain ⟨rfl, rfl⟩ := hhead
    exact Or.inr ⟨.interpolation (String.ofList expression), '#' :: expression ++ ['#'], after,
      by simp, by simp, by simp, rfl⟩

/-- Behind the lexeme that ends a round less is left than in front of the round. -/
theorem length_lt_of_round {rest lexeme after : List Char} {pos : Position} {run : TextRun}
    (h : textRun [] pos rest pos = .ok run) (hrest : run.rest = lexeme ++ after)
    (hne : lexeme ≠ []) : after.length < rest.length := by
  have hle := length_le_of_textRun h
  have hpos := List.length_pos_iff.mpr hne
  simp only [hrest, List.length_append, List.length_nil] at hle
  omega

/-- A row of items has no fault when it is made of tokens throughout. -/
theorem mapM_id_eq_ok_iff (items : List (Except ScanError Token)) (tokens : List Token) :
    items.mapM id = .ok tokens ↔ items = tokens.map .ok := by
  induction items generalizing tokens with
  | nil => cases tokens <;> simp [pure, Except.pure]
  | cons item items ih =>
    rw [List.mapM_cons]
    rcases item with e | token
    · cases tokens <;> simp [bind, Except.bind]
    · rcases h : items.mapM id with e | rest
      · cases tokens with
        | nil => simp [bind, Except.bind]
        | cons t ts => simp [bind, Except.bind, ← ih ts, h]
      · cases tokens with
        | nil => simp [bind, Except.bind, pure, Except.pure]
        | cons t ts => simp [bind, Except.bind, pure, Except.pure, ← ih ts, h]

/-- A source is accepted when its items are tokens throughout. -/
theorem tokenize_eq_ok_iff {source : String} {tokens : List Token} :
    tokenize source = .ok tokens ↔ itemsAt source.toList .start = tokens.map .ok :=
  mapM_id_eq_ok_iff _ tokens

end Scanner

end TagTemplate
