import TagTemplate.Proofs.Source.CommentInsertion

/-!
# Scanning by offset

A `Cursor` scans a source that it holds as a whole, by the offset it has come to. It goes in small
steps: in text, a step keeps one character and the text waits until markup or the end of the source
is found; in a comment, a step passes over a mark or a character and counts the comments that are
open; a tag or an interpolation takes one step. Which of these is due is kept in its state, and each
of them relies on what the one before has seen.

Nothing holds a cursor within its source but what it has seen there. So all that can go wrong is
said (`Mishap`): a stretch that ends before it begins or goes beyond the source, a difference below
zero, and steps without end.
-/

namespace TagTemplate

/-- What must not happen to a cursor. -/
inductive Mishap where
  /-- A stretch is taken that ends before it begins, or beyond the source. -/
  | outOfRange
  /-- More is taken from a number than it is. -/
  | underflow
  /-- No item comes in all the steps that one may take. -/
  | stall
deriving Repr, DecidableEq

/-- The stretch between two offsets, if there is one. -/
def stretch? (source : List Char) (start stop : Nat) : Except Mishap (List Char) :=
  if start ≤ stop ∧ stop ≤ source.length then .ok (slice source start stop)
  else .error .outOfRange

/-- The difference of two numbers, if there is one. -/
def minus? (a b : Nat) : Except Mishap Nat := if b ≤ a then .ok (a - b) else .error .underflow

/-! ## Looking ahead -/

/-- The character at an offset; beyond the source, the null character. -/
def charAt (source : List Char) (i : Nat) : Char := source[i]?.getD (Char.ofNat 0)

/-- A mark stands at an offset. -/
def standsAt (mark source : List Char) (i : Nat) : Bool := mark.isPrefixOf (source.drop i)

/-- A tag begins at an offset, where a `<` is. -/
def opensTagAt (source : List Char) (i : Nat) : Bool :=
  (charAt source (i + 1)).isAlpha ||
    (charAt source (i + 1) == '/' && (charAt source (i + 2)).isAlpha)

/-- Where the `#` is that closes an interpolation, from an offset on. -/
def closingHash (source : List Char) (i : Nat) : Option Nat :=
  if h : i < source.length then
    let c := source[i]
    if c = '#' then some i
    else if c = '<' ∨ c = '>' ∨ c = '\n' then none
    else closingHash source (i + 1)
  else none
termination_by source.length - i

/-- Where the first `>` outside quotes is, from an offset on where a quote may be open. When there
is none, says whether a quote is still open at the end. -/
def tagEndOutsideQuotes (source : List Char) (quote : Option Char) (i : Nat) : Except Bool Nat :=
  if h : i < source.length then
    let c := source[i]
    match quote with
    | some q => tagEndOutsideQuotes source (if c = q then none else some q) (i + 1)
    | none =>
      if c = '"' ∨ c = '\'' then tagEndOutsideQuotes source (some c) (i + 1)
      else if c = '>' then .ok i
      else tagEndOutsideQuotes source none (i + 1)
  else .error quote.isSome
termination_by source.length - i

/-- Where the first `>` is, from an offset on. -/
def tagEndAnywhere (source : List Char) (i : Nat) : Option Nat :=
  if h : i < source.length then
    if source[i] = '>' then some i else tagEndAnywhere source (i + 1)
  else none
termination_by source.length - i

/-- Where the `>` is that ends a tag, from the offset behind its `<` on. -/
def tagEnd (source : List Char) (i : Nat) : Option Nat :=
  match tagEndOutsideQuotes source none i with
  | .ok stop => some stop
  | .error true => tagEndAnywhere source i
  | .error false => none

/-- What a tag is, from what stands in it. Behind the name of an opening tag there is what is left
of it. -/
def kindOfTag? (inside : List Char) : Except Mishap Token.Kind :=
  match inside with
  | '/' :: _ => .ok (.ofTag inside)
  | _ => do
    let _ ← stretch? inside (tagName inside).length inside.length
    return .ofTag inside

/-! ## The cursor -/

/-- A source, the place that the cursor has come to in it, what is due there, the text that waits
and where the first of it stands, how many comments are open and where the first of them begins, and
whether the cursor has come to the end or to a fault. -/
structure Cursor where
  source : List Char
  pos : Position
  state : ScanState
  pending : List Char
  pendingStart : Position
  depth : Nat
  opened : Position
  finished : Bool

namespace Cursor

/-- A cursor at the start of a source. -/
def ofSource (source : String) : Cursor :=
  ⟨source.toList, .start, .inText, [], .start, 0, .start, false⟩

/-- What a step comes to: it goes on, or there is an answer, which is an item or none any more. -/
inductive Outcome where
  | goesOn (c : Cursor)
  | answers (item : Option (Except ScanError Token)) (c : Cursor)

/-- Passes over a character, if there is one. -/
def advance (c : Cursor) : Cursor :=
  match c.source[c.pos.offset]? with
  | some char => { c with pos := c.pos.step char }
  | none => c

/-- Passes over some characters. -/
def advanceBy : Nat → Cursor → Cursor
  | 0, c => c
  | n + 1, c => advanceBy n c.advance

/-- Answers with a token that takes the source up to an offset, and is in text behind it. -/
def take (c : Cursor) (stop : Nat) (kind : Token.Kind) : Except Mishap Outcome := do
  let lexeme ← stretch? c.source c.pos.offset (stop + 1)
  let count ← minus? (stop + 1) c.pos.offset
  let after := { c.advanceBy count with state := .inText }
  return .answers (some (.ok ⟨kind, .between c.pos after.pos, String.ofList lexeme⟩)) after

/-- Answers with the text that waits, or goes on if there is none. -/
def flush (c : Cursor) (state : ScanState) : Outcome :=
  if c.pending.isEmpty then .goesOn { c with state }
  else
    let text := String.ofList c.pending
    .answers (some (.ok ⟨.text text, .between c.pendingStart c.pos, text⟩))
      { c with state, pending := [] }

/-- Keeps a character of text. -/
def keep (c : Cursor) (char : Char) : Cursor :=
  { c with
    pending := c.pending ++ [char]
    pendingStart := if c.pending.isEmpty then c.pos else c.pendingStart }

/-- A step in text. -/
def stepText (c : Cursor) : Outcome :=
  match c.source[c.pos.offset]? with
  | none => if c.pending.isEmpty then .answers none { c with finished := true } else c.flush .inText
  | some char =>
    if char = '<' ∧ standsAt openMark c.source c.pos.offset then
      .goesOn { c with state := .inComment, depth := 0, opened := c.pos }
    else if char = '<' ∧ opensTagAt c.source c.pos.offset then c.flush .inTag
    else if char = '#' ∧ (closingHash c.source (c.pos.offset + 1)).isSome then
      c.flush .inInterpolation
    else .goesOn (c.keep char).advance

/-- A step in a comment. -/
def stepComment (c : Cursor) : Except Mishap Outcome :=
  if c.source.length ≤ c.pos.offset then
    .ok (.answers (some (.error ⟨.unterminatedComment, c.opened.line, c.opened.column⟩))
      { c with finished := true })
  else if standsAt openMark c.source c.pos.offset then
    .ok (.goesOn (advanceBy openMark.length { c with depth := c.depth + 1 }))
  else if standsAt closeMark c.source c.pos.offset then do
    let depth ← minus? c.depth 1
    let state := if depth = 0 then .inText else .inComment
    return .goesOn (advanceBy closeMark.length { c with depth, state })
  else .ok (.goesOn c.advance)

/-- The step over a tag. -/
def stepTag (c : Cursor) : Except Mishap Outcome :=
  match tagEnd c.source (c.pos.offset + 1) with
  | none =>
    .ok (.answers (some (.error ⟨.unterminatedTag, c.pos.line, c.pos.column⟩))
      { c with finished := true })
  | some stop => do
    let inside ← stretch? c.source (c.pos.offset + 1) stop
    let kind ← kindOfTag? inside
    c.take stop kind

/-- The step over an interpolation. -/
def stepInterpolation (c : Cursor) : Except Mishap Outcome := do
  let stop := (closingHash c.source (c.pos.offset + 1)).getD c.pos.offset
  let expression ← stretch? c.source (c.pos.offset + 1) stop
  c.take stop (.interpolation (String.ofList expression))

/-- The step that is due. -/
def step (c : Cursor) : Except Mishap Outcome :=
  match c.state with
  | .inText => .ok c.stepText
  | .inComment => c.stepComment
  | .inTag => c.stepTag
  | .inInterpolation => c.stepInterpolation

/-- Steps until there is an answer. -/
def run : (steps : Nat) → Cursor → Except Mishap (Option (Except ScanError Token) × Cursor)
  | 0, _ => .error .stall
  | steps + 1, c =>
    match c.step with
    | .error mishap => .error mishap
    | .ok (.goesOn c) => run steps c
    | .ok (.answers item c) => .ok (item, c)

/-- The steps that an answer may take: two for each character that is left, and two more. -/
def patience (c : Cursor) : Nat := 2 * (c.source.length - c.pos.offset) + 2

/-- The next token or fault, if any, and the cursor after it. -/
def next (c : Cursor) : Except Mishap (Option (Except ScanError Token) × Cursor) :=
  if c.finished then .ok (none, c) else c.run c.patience

/-- The answers to some calls, one after the other, and the cursor after them. -/
def calls : (n : Nat) → Cursor → Except Mishap (List (Option (Except ScanError Token)) × Cursor)
  | 0, c => .ok ([], c)
  | n + 1, c => do
    let (item, c) ← c.next
    let (items, c) ← c.calls n
    return (item :: items, c)

/-- What is left of the source. -/
def rest (c : Cursor) : List Char := c.source.drop c.pos.offset

end Cursor

/-! ## What the cursor reads -/

variable {source : List Char}

theorem closingHash_eq (source : List Char) (i : Nat) :
    closingHash source i =
      (closeInterpolation (source.drop i)).map fun split => i + split.1.length := by
  fun_induction closingHash source i with
  | case1 i h c hc =>
    rw [List.drop_eq_getElem_cons h, closeInterpolation, if_pos hc]
    rfl
  | case2 i h c hc hstop =>
    rw [List.drop_eq_getElem_cons h, closeInterpolation, if_neg hc, if_pos hstop]
    rfl
  | case3 i h c hc hstop ih =>
    rw [List.drop_eq_getElem_cons h, closeInterpolation, if_neg hc, if_neg hstop, ih,
      Option.map_map]
    congr 1
    funext split
    show i + 1 + split.1.length = i + (split.1.length + 1)
    omega
  | case4 i h =>
    rw [List.drop_eq_nil_of_le (Nat.not_lt.mp h)]
    rfl

theorem tagEndOutsideQuotes_eq (source : List Char) (quote : Option Char) (i : Nat) :
    tagEndOutsideQuotes source quote i =
      (closeTagOutsideQuotes quote (source.drop i)).map fun split => i + split.1.length := by
  have hmore : ∀ {i : Nat} {c : Char} {split : Except Bool (List Char × List Char)},
      (split.map fun split => i + 1 + split.1.length) =
        (split.map fun (split : List Char × List Char) => (c :: split.1, split.2)).map
          fun split => i + split.1.length := by
    intro i c split
    cases split with
    | error isOpen => rfl
    | ok split =>
      show Except.ok (i + 1 + split.1.length) = .ok (i + (split.1.length + 1))
      rw [Nat.add_assoc, Nat.add_comm 1]
  fun_induction tagEndOutsideQuotes source quote i with
  | case1 i h c q ih =>
    rw [dite_eq_ite] at ih
    rw [List.drop_eq_getElem_cons h, closeTagOutsideQuotes_inside, ih]
    exact hmore
  | case2 i h c hc ih =>
    have hend : source[i] ≠ '>' := by
      rintro hgt
      rw [show c = '>' from hgt] at hc
      exact absurd hc (by decide)
    rw [List.drop_eq_getElem_cons h, closeTagOutsideQuotes_outside hend, if_pos hc, ih]
    exact hmore
  | case3 i h c hc hend =>
    rw [List.drop_eq_getElem_cons h, show source[i] = '>' from hend]
    rfl
  | case4 i h c hc hend ih =>
    rw [List.drop_eq_getElem_cons h, closeTagOutsideQuotes_outside hend, if_neg hc, ih]
    exact hmore
  | case5 quote i h =>
    rw [List.drop_eq_nil_of_le (Nat.not_lt.mp h)]
    rfl

theorem tagEndAnywhere_eq (source : List Char) (i : Nat) :
    tagEndAnywhere source i =
      (closeTagAnywhere (source.drop i)).map fun split => i + split.1.length := by
  fun_induction tagEndAnywhere source i with
  | case1 i h hc =>
    rw [List.drop_eq_getElem_cons h, closeTagAnywhere, if_pos hc]
    rfl
  | case2 i h hc ih =>
    rw [List.drop_eq_getElem_cons h, closeTagAnywhere, if_neg hc, ih, Option.map_map]
    congr 1
    funext split
    show i + 1 + split.1.length = i + (split.1.length + 1)
    omega
  | case3 i h =>
    rw [List.drop_eq_nil_of_le (Nat.not_lt.mp h)]
    rfl

theorem tagEnd_eq (source : List Char) (i : Nat) :
    tagEnd source i = (closeTag (source.drop i)).map fun split => i + split.1.length := by
  rw [tagEnd, closeTag, tagEndOutsideQuotes_eq, tagEndAnywhere_eq]
  cases closeTagOutsideQuotes none (source.drop i) with
  | ok split => rfl
  | error isOpen => cases isOpen <;> rfl

/-- What stands at an offset is read off what is left there. -/
theorem opensTagAt_eq {i : Nat} {c : Char} {after : List Char} (h : source.drop i = c :: after) :
    opensTagAt source i = opensTag after := by
  have hchar : ∀ n, charAt source (i + 1 + n) = after[n]?.getD (Char.ofNat 0) := by
    intro n
    have hdrop : source.drop (i + 1) = after := by
      rw [← List.drop_drop, h]
      rfl
    rw [charAt, ← hdrop, List.getElem?_drop]
  have hnull : (Char.ofNat 0).isAlpha = false := by decide
  rw [opensTagAt, show i + 2 = i + 1 + 1 from rfl, hchar 0, hchar 1]
  rcases after with _ | ⟨letter, _ | ⟨letter', after⟩⟩
  · simp [opensTag, hnull]
  · simp [opensTag, hnull]
  · by_cases hslash : letter = '/'
    · subst hslash
      simp [opensTag]
    · simp [opensTag, hslash]

theorem standsAt_iff {mark : List Char} {i : Nat} :
    standsAt mark source i = true ↔ mark <+: source.drop i := List.isPrefixOf_iff_prefix

theorem stretch?_of_at {pos : Position} {cs after : List Char} (h : At source pos (cs ++ after)) :
    stretch? source pos.offset (pos.offset + cs.length) = .ok cs := by
  have hlength := h.offset_add_length
  rw [List.length_append] at hlength
  have hslice := h.slice_eq
  rw [Position.advance_offset] at hslice
  rw [stretch?, if_pos ⟨Nat.le_add_right _ _, by omega⟩, hslice]

theorem minus?_add (a b : Nat) : minus? (a + b) a = .ok b := by
  rw [minus?, if_pos (Nat.le_add_right a b), Nat.add_sub_cancel_left]

/-- The name of a tag is no longer than the tag. -/
theorem kindOfTag?_eq (inside : List Char) : kindOfTag? inside = .ok (.ofTag inside) := by
  have hname : (tagName inside).length ≤ inside.length :=
    (List.takeWhile_prefix isTagNameChar).length_le
  unfold kindOfTag?
  split
  · rfl
  · rw [stretch?, if_pos ⟨hname, Nat.le_refl _⟩]
    rfl

namespace Cursor

variable {c : Cursor}

/-- At the end of the source there is no character. -/
theorem char_of_rest_nil (h : c.rest = []) :
    c.source[c.pos.offset]? = none ∧ c.source.length ≤ c.pos.offset :=
  have hend : c.source.length ≤ c.pos.offset := List.drop_eq_nil_iff.mp h
  ⟨List.getElem?_eq_none hend, hend⟩

/-- What is left is the character where the cursor stands, and what is left behind it. -/
theorem char_of_rest_cons {char : Char} {after : List Char} (h : c.rest = char :: after) :
    c.source[c.pos.offset]? = some char ∧ c.source.drop (c.pos.offset + 1) = after ∧
      c.pos.offset < c.source.length := by
  have hlt : c.pos.offset < c.source.length := by
    refine Nat.lt_of_not_le fun hend => ?_
    rw [rest, List.drop_eq_nil_of_le hend] at h
    cases h
  rw [rest, List.drop_eq_getElem_cons hlt, List.cons.injEq] at h
  exact ⟨by rw [List.getElem?_eq_getElem hlt, h.1], h.2, hlt⟩

/-- The cursor behind a stretch of what is left. -/
def past (c : Cursor) (cs : List Char) : Cursor := { c with pos := c.pos.advance cs }

theorem rest_past {cs after : List Char} (h : c.rest = cs ++ after) : (c.past cs).rest = after := by
  rw [rest, past, Position.advance_offset, ← List.drop_drop,
    show c.source.drop c.pos.offset = cs ++ after from h, List.drop_left]

theorem at_past (hat : At c.source c.pos c.rest) {cs after : List Char} (h : c.rest = cs ++ after) :
    At c.source (c.past cs).pos (c.past cs).rest := by
  rw [rest_past h]
  rw [h] at hat
  exact hat.advance

theorem advance_eq {char : Char} {after : List Char} (h : c.rest = char :: after) :
    c.advance = c.past [char] := by
  rw [advance, (char_of_rest_cons h).1]
  rfl

/-- A stretch is passed over character by character. -/
theorem advanceBy_eq {cs after : List Char} (h : c.rest = cs ++ after) :
    c.advanceBy cs.length = c.past cs := by
  induction cs generalizing c with
  | nil => rfl
  | cons char cs ih => rw [List.length_cons, advanceBy, advance_eq h, ih (rest_past h)]; rfl

end Cursor

end TagTemplate
