import TagTemplate.Source.Token

/-!
# Scanning

A scanner walks a source once, from left to right, and yields one token at a time. In text there
are three things to watch for:

* `<!---` begins a comment, which ends when as many `--->` have come as `<!---`;
* `<` before a letter, or before a slash and a letter, begins a tag, which ends at the first `>`
  outside quotes (or at the first `>` at all when a quote never closes);
* `#` begins an interpolation when another `#` follows before any `<`, `>` or end of line.

Any other character, a lone `<` or `#` among them, is literal. Each token takes at least one
character, so the tokens of a source are found by recursion on what is left of it.
-/

namespace TagTemplate

/-! ## Comments -/

/-- Splits after the marker that closes the last of the `depth` comments that are open. -/
def closeComment : (depth : Nat) → List Char → Option (List Char × List Char)
  | 0, rest => some ([], rest)
  | _ + 1, [] => none
  | depth + 1, '<' :: '!' :: '-' :: '-' :: '-' :: rest =>
    (closeComment (depth + 2) rest).map fun (inside, after) =>
      ('<' :: '!' :: '-' :: '-' :: '-' :: inside, after)
  | depth + 1, '-' :: '-' :: '-' :: '>' :: rest =>
    (closeComment depth rest).map fun (inside, after) => ('-' :: '-' :: '-' :: '>' :: inside, after)
  | depth + 1, c :: rest =>
    (closeComment (depth + 1) rest).map fun (inside, after) => (c :: inside, after)

/-- Nothing is lost in closing a comment. -/
theorem closeComment_append {depth : Nat} {cs inside after : List Char}
    (h : closeComment depth cs = some (inside, after)) : inside ++ after = cs := by
  fun_induction closeComment depth cs generalizing inside with
  | case1 => simp_all
  | case2 => simp at h
  | case3 depth rest ih =>
    obtain ⟨⟨i, a⟩, hi, he⟩ := Option.map_eq_some_iff.1 h
    simp only [Prod.mk.injEq] at he
    obtain ⟨rfl, rfl⟩ := he
    simp [ih hi]
  | case4 depth rest ih =>
    obtain ⟨⟨i, a⟩, hi, he⟩ := Option.map_eq_some_iff.1 h
    simp only [Prod.mk.injEq] at he
    obtain ⟨rfl, rfl⟩ := he
    simp [ih hi]
  | case5 depth c rest _ _ ih =>
    obtain ⟨⟨i, a⟩, hi, he⟩ := Option.map_eq_some_iff.1 h
    simp only [Prod.mk.injEq] at he
    obtain ⟨rfl, rfl⟩ := he
    simp [ih hi]

/-! ## Interpolations -/

/-- Splits at the `#` that closes an interpolation. -/
def closeInterpolation : List Char → Option (List Char × List Char)
  | [] => none
  | c :: rest =>
    if c = '#' then some ([], rest)
    else if c = '<' ∨ c = '>' ∨ c = '\n' then none
    else (closeInterpolation rest).map fun (expression, after) => (c :: expression, after)

/-- What precedes the closing `#` and what follows it. -/
theorem closeInterpolation_append {cs expression after : List Char}
    (h : closeInterpolation cs = some (expression, after)) : expression ++ '#' :: after = cs := by
  induction cs generalizing expression with
  | nil => simp [closeInterpolation] at h
  | cons c rest ih =>
    unfold closeInterpolation at h
    split at h
    · simp_all
    · split at h
      · simp at h
      · obtain ⟨⟨e, a⟩, he, hp⟩ := Option.map_eq_some_iff.1 h
        simp only [Prod.mk.injEq] at hp
        obtain ⟨rfl, rfl⟩ := hp
        simp [ih he]

/-! ## Tags -/

/-- A `<` begins a tag when a letter follows, or a slash and a letter. -/
def opensTag : (afterMark : List Char) → Bool
  | '/' :: c :: _ => c.isAlpha
  | c :: _ => c.isAlpha
  | [] => false

/-- Splits at the first `>` outside quotes, where `quote` is the mark of the quote that is open.
When there is none, says whether a quote is still open at the end. -/
def closeTagOutsideQuotes (quote : Option Char) :
    List Char → Except Bool (List Char × List Char)
  | [] => .error quote.isSome
  | c :: rest =>
    let continueWith (quote : Option Char) :=
      (closeTagOutsideQuotes quote rest).map fun (inside, after) => (c :: inside, after)
    match quote with
    | some q => if c = q then continueWith none else continueWith (some q)
    | none =>
      if c = '"' ∨ c = '\'' then continueWith (some c)
      else if c = '>' then .ok ([], rest)
      else continueWith none

/-- Splits at the first `>`. -/
def closeTagAnywhere : List Char → Option (List Char × List Char)
  | [] => none
  | c :: rest =>
    if c = '>' then some ([], rest)
    else (closeTagAnywhere rest).map fun (inside, after) => (c :: inside, after)

/-- Splits at the `>` that ends a tag. A quote that never closes hides nothing. -/
def closeTag (afterMark : List Char) : Option (List Char × List Char) :=
  match closeTagOutsideQuotes none afterMark with
  | .ok split => some split
  | .error true => closeTagAnywhere afterMark
  | .error false => none

theorem closeTagOutsideQuotes_append {quote : Option Char} {cs inside after : List Char}
    (h : closeTagOutsideQuotes quote cs = .ok (inside, after)) : inside ++ '>' :: after = cs := by
  induction cs generalizing quote inside with
  | nil => simp [closeTagOutsideQuotes] at h
  | cons c rest ih =>
    have step : ∀ q, (closeTagOutsideQuotes q rest).map
        (fun (split : List Char × List Char) => (c :: split.1, split.2)) = .ok (inside, after) →
        inside ++ '>' :: after = c :: rest := by
      intro q hq
      match hc : closeTagOutsideQuotes q rest with
      | .error b => simp [hc, Except.map] at hq
      | .ok (i, a) =>
        simp only [hc, Except.map, Except.ok.injEq, Prod.mk.injEq] at hq
        obtain ⟨rfl, rfl⟩ := hq
        simp [ih hc]
    unfold closeTagOutsideQuotes at h
    cases quote with
    | some q =>
      simp only at h
      split at h <;> exact step _ h
    | none =>
      simp only at h
      split at h
      · exact step _ h
      · split at h
        · simp_all
        · exact step _ h

theorem closeTagAnywhere_append {cs inside after : List Char}
    (h : closeTagAnywhere cs = some (inside, after)) : inside ++ '>' :: after = cs := by
  induction cs generalizing inside with
  | nil => simp [closeTagAnywhere] at h
  | cons c rest ih =>
    unfold closeTagAnywhere at h
    split at h
    · simp_all
    · obtain ⟨⟨i, a⟩, hi, hp⟩ := Option.map_eq_some_iff.1 h
      simp only [Prod.mk.injEq] at hp
      obtain ⟨rfl, rfl⟩ := hp
      simp [ih hi]

/-- What precedes the closing `>` and what follows it. -/
theorem closeTag_append {cs inside after : List Char}
    (h : closeTag cs = some (inside, after)) : inside ++ '>' :: after = cs := by
  unfold closeTag at h
  split at h
  · rename_i split hs
    simp only [Option.some.injEq] at h
    subst h
    exact closeTagOutsideQuotes_append hs
  · exact closeTagAnywhere_append h
  · simp at h

/-! ## Text -/

/-- A tag or an interpolation, with what follows the mark that begins a tag, and the two parts
that the closing `#` of an interpolation separates. -/
inductive Markup where
  | tag (afterMark : List Char)
  | interpolation (expression after : List Char)

/-- What the next character begins. -/
inductive Lead where
  | comment (inside : List Char)
  | markup (markup : Markup)
  | literal

/-- What a character begins, given those that follow it. -/
def lead (c : Char) (rest : List Char) : Lead :=
  if c = '<' then
    match rest with
    | '!' :: '-' :: '-' :: '-' :: inside => .comment inside
    | rest => if opensTag rest then .markup (.tag rest) else .literal
  else if c = '#' then
    match closeInterpolation rest with
    | some (expression, after) => .markup (.interpolation expression after)
    | none => .literal
  else .literal

theorem length_lt_of_lead_comment {c : Char} {rest inside : List Char}
    (h : lead c rest = .comment inside) : inside.length < rest.length := by
  unfold lead at h
  split at h
  · split at h
    · simp only [Lead.comment.injEq] at h
      subst h
      simp only [List.length_cons]
      omega
    · split at h <;> simp at h
  · split at h
    · split at h <;> simp at h
    · simp at h

/-- A maximal run of text: its characters without comments, where the first of them stands, the
markup that ended it (or nothing, at the end of the source), and what is left. -/
structure TextRun where
  text : List Char
  start : Position
  markup : Option Markup
  rest : List Char
  stop : Position

/-- Reads text up to the next markup. `kept` holds the characters so far, latest first. Fails
with the place of a comment that never ends. -/
def textRun (kept : List Char) (start : Position) (rest : List Char) (pos : Position) :
    Except Position TextRun :=
  match rest with
  | [] => .ok ⟨kept.reverse, start, none, [], pos⟩
  | c :: rest =>
    match _hl : lead c rest with
    | .markup markup => .ok ⟨kept.reverse, start, some markup, c :: rest, pos⟩
    | .literal => textRun (c :: kept) (if kept.isEmpty then pos else start) rest (pos.step c)
    | .comment inside =>
      match _hc : closeComment 1 inside with
      | none => .error pos
      | some (skipped, after) =>
        textRun kept start after (pos.advance ("<!---".toList ++ skipped))
termination_by rest.length
decreasing_by
  · simp
  · have h1 := congrArg List.length (closeComment_append _hc)
    have h2 := length_lt_of_lead_comment _hl
    simp only [List.length_append, List.length_cons] at h1 ⊢
    omega

/-- The markup that begins with a character is what the source holds there. -/
theorem eq_of_lead_markup {c : Char} {rest : List Char} {markup : Markup}
    (h : lead c rest = .markup markup) :
    match markup with
    | .tag afterMark => c = '<' ∧ rest = afterMark
    | .interpolation expression after => c = '#' ∧ rest = expression ++ '#' :: after := by
  unfold lead at h
  split at h
  · split at h
    · simp at h
    · split at h
      · simp only [Lead.markup.injEq] at h
        subst h
        simp_all
      · simp at h
  · split at h
    · split at h
      · simp only [Lead.markup.injEq] at h
        subst h
        rename_i hs
        simp_all [closeInterpolation_append hs]
      · simp at h
    · simp at h

/-- A text run takes at least the characters it keeps. -/
theorem length_le_of_textRun {kept : List Char} {start : Position} {rest : List Char}
    {pos : Position} {run : TextRun} (h : textRun kept start rest pos = .ok run) :
    run.text.length + run.rest.length ≤ kept.length + rest.length := by
  fun_induction textRun kept start rest pos with
  | case1 => simp_all; subst h; simp
  | case2 => simp_all; subst h; simp
  | case3 kept start pos c rest _ ih =>
    have := ih h
    simp only [List.length_cons] at this ⊢
    omega
  | case4 => simp at h
  | case5 kept start pos c rest inside hl skipped after hc ih =>
    have h0 := ih h
    have h1 := congrArg List.length (closeComment_append hc)
    have h2 := length_lt_of_lead_comment hl
    simp only [List.length_append, List.length_cons] at h1 ⊢
    omega

/-- The markup that ends a text run is what the source holds there. -/
theorem rest_of_textRun {kept : List Char} {start : Position} {rest : List Char}
    {pos : Position} {run : TextRun} (h : textRun kept start rest pos = .ok run) :
    match run.markup with
    | none => run.rest = []
    | some (.tag afterMark) => run.rest = '<' :: afterMark
    | some (.interpolation expression after) => run.rest = '#' :: expression ++ '#' :: after := by
  fun_induction textRun kept start rest pos with
  | case1 => simp_all; subst h; simp
  | case2 kept start pos c rest markup hl =>
    simp only [Except.ok.injEq] at h
    subst h
    have := eq_of_lead_markup hl
    cases markup <;> simp_all
  | case3 _ _ _ _ _ _ ih => exact ih h
  | case4 => simp at h
  | case5 _ _ _ _ _ _ _ _ _ _ ih => exact ih h

/-! ## The scanner -/

/-- Where a scanner stands. -/
inductive ScanState where
  | inText
  | inTag
  | inComment
  | inInterpolation
deriving Repr, DecidableEq, Inhabited

/-- Why a source cannot be scanned. -/
inductive ScanFault where
  | unterminatedComment
  | unterminatedTag
deriving Repr, DecidableEq, Inhabited

/-- A fault, and the line and column where the open comment or tag begins. -/
structure ScanError where
  fault : ScanFault
  line : Nat
  column : Nat
deriving Repr, DecidableEq, Inhabited

def ScanFault.message : ScanFault → String
  | .unterminatedComment => "Unterminated comment"
  | .unterminatedTag => "Unterminated tag: expected '>'"

def ScanError.message (e : ScanError) : String :=
  s!"Scan error at line {e.line}, column {e.column}: {e.fault.message}"

/-- What is left to scan, where it stands, what is known to come next, and whether the scanner has
come to its end or to a fault. -/
structure Scanner where
  rest : List Char
  pos : Position
  state : ScanState
  finished : Bool
deriving Repr, DecidableEq, Inhabited

namespace Scanner

/-- A scanner at the start of a source. -/
def ofSource (source : String) : Scanner := ⟨source.toList, .start, .inText, false⟩

/-- The state in which a scanner waits before markup. -/
def stateBefore : Option Markup → ScanState
  | none => .inText
  | some (.tag _) => .inTag
  | some (.interpolation _ _) => .inInterpolation

/-- A scanner in text, after the given characters. -/
def inText (rest : List Char) (pos : Position) : Scanner := ⟨rest, pos, .inText, false⟩

/-- The token made of `lexeme`, and the scanner after it. -/
def take (kind : Token.Kind) (lexeme after : List Char) (pos : Position) :
    Option (Except ScanError Token) × Scanner :=
  let stop := pos.advance lexeme
  (some (.ok ⟨kind, .between pos stop, String.ofList lexeme⟩), inText after stop)

/-- Reads the markup that begins at `pos`; `rest` is all that is left there. -/
def readMarkup (rest : List Char) (pos : Position) :
    Option Markup → Option (Except ScanError Token) × Scanner
  | none => (none, ⟨rest, pos, .inText, true⟩)
  | some (.interpolation expression after) =>
    take (.interpolation (String.ofList expression)) ('#' :: expression ++ ['#']) after pos
  | some (.tag afterMark) =>
    match closeTag afterMark with
    | some (inside, after) => take (.ofTag inside) ('<' :: inside ++ ['>']) after pos
    | none =>
      (some (.error ⟨.unterminatedTag, pos.line, pos.column⟩), ⟨rest, pos, .inTag, true⟩)

/-- The next token or fault, if any, and the scanner after it. -/
def next (s : Scanner) : Option (Except ScanError Token) × Scanner :=
  if s.finished then (none, s)
  else
    match textRun [] s.pos s.rest s.pos with
    | .error pos =>
      (some (.error ⟨.unterminatedComment, pos.line, pos.column⟩),
        { s with state := .inComment, finished := true })
    | .ok run =>
      if run.text.isEmpty then readMarkup run.rest run.stop run.markup
      else
        let text := String.ofList run.text
        (some (.ok ⟨.text text, .between run.start run.stop, text⟩),
          ⟨run.rest, run.stop, stateBefore run.markup, false⟩)

/-- A token takes at least one character. -/
theorem length_lt_of_next {s after : Scanner} {token : Token}
    (h : s.next = (some (.ok token), after)) : after.rest.length < s.rest.length := by
  unfold next at h
  split at h
  · simp at h
  · split at h
    · simp at h
    · rename_i run hr
      have hle := length_le_of_textRun hr
      have hrest := rest_of_textRun hr
      split at h
      · rcases hm : run.markup with _ | ⟨afterMark⟩ | ⟨expression, rest⟩
        · simp [hm, readMarkup] at h
        · simp only [hm, readMarkup] at h hrest
          split at h
          · rename_i inside rest hc
            simp only [take, Prod.mk.injEq] at h
            obtain ⟨_, rfl⟩ := h
            have := congrArg List.length (closeTag_append hc)
            simp_all [inText]
            omega
          · simp at h
        · simp only [hm, readMarkup, take, Prod.mk.injEq] at h hrest
          obtain ⟨_, rfl⟩ := h
          simp_all [inText]
          omega
      · rename_i hne
        simp only [Prod.mk.injEq] at h
        obtain ⟨_, rfl⟩ := h
        have : 0 < run.text.length := by
          cases ht : run.text with
          | nil => simp [ht] at hne
          | cons => simp
        simp_all
        omega

/-- The tokens from here on, and the fault that stops them, if any. -/
def items (s : Scanner) : List (Except ScanError Token) :=
  match _h : s.next with
  | (some (.ok token), after) => .ok token :: after.items
  | (some (.error e), _) => [.error e]
  | (none, _) => []
termination_by s.rest.length
decreasing_by exact length_lt_of_next _h

/-- All tokens of a source, or the fault that stops them. -/
def tokenize (source : String) : Except ScanError (List Token) := (ofSource source).items.mapM id

end Scanner

end TagTemplate
