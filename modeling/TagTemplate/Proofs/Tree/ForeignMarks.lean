import TagTemplate.Proofs.Source.Cursor
import TagTemplate.Proofs.Tree.Foreign

/-!
# The marks of an unknown tag

The source of an unknown tag is cut at its `#` marks by a loop (`ForeignLoop`). A round looks for
the next mark, and behind it for a character that ends a reference. It finds both as byte offsets
into what is left of the source, and slices the source there. The scanner instead, where it comes to
a mark in text, looks for the partner of that mark at one index after the other (`closingHash`).

The two pair the marks alike (`pushForeign_pairs_marks`): both read a text mark by mark, as
`reading_induction` does, and each round passes at least one mark.
-/

namespace TagTemplate

/-! ## Slices by bytes -/

namespace Text

/-- The bytes that characters take. -/
def byteLength (cs : List Char) : Nat := (cs.map Char.utf8Size).sum

/-- The parts of a text before and behind a byte offset. A text can be cut only between two
characters or at an end. -/
def cutAt? : (offset : Nat) → List Char → Option (List Char × List Char)
  | 0, cs => some ([], cs)
  | _ + 1, [] => none
  | offset + 1, c :: cs =>
    if c.utf8Size ≤ offset + 1 then
      (cutAt? (offset + 1 - c.utf8Size) cs).map fun (before, after) => (c :: before, after)
    else none

/-- The byte offset of the first character of a kind. -/
def findByte? (isSought : Char → Bool) : List Char → Option Nat
  | [] => none
  | c :: cs => if isSought c then some 0 else (findByte? isSought cs).map (c.utf8Size + ·)

variable {isSought : Char → Bool} {before cs : List Char} {c : Char}

theorem cutAt?_byteLength (before after : List Char) :
    cutAt? (byteLength before) (before ++ after) = some (before, after) := by
  induction before with
  | nil => cases after <;> rfl
  | cons c before ih =>
    have hlength : byteLength (c :: before) = c.utf8Size + byteLength before := rfl
    -- a character takes a byte at least, so the cut is not in front of it
    obtain ⟨offset, hoffset⟩ : ∃ offset, c.utf8Size + byteLength before = offset + 1 :=
      Nat.exists_eq_add_one.mpr (Nat.add_pos_left c.utf8Size_pos _)
    have hbehind : offset + 1 - c.utf8Size = byteLength before := by omega
    rw [hlength, hoffset, List.cons_append, cutAt?, if_pos (by omega), hbehind, ih]
    rfl

/-- Behind a character of one byte a text can be cut one byte further on than in front of it. -/
theorem cutAt?_behind (hc : c.utf8Size = 1) (before after : List Char) :
    cutAt? (byteLength before + 1) (before ++ c :: after) = some (before ++ [c], after) := by
  have hlength : byteLength before + 1 = byteLength (before ++ [c]) := by
    simp [byteLength, hc]
  rw [hlength, List.append_cons before c after]
  exact cutAt?_byteLength _ after

theorem findByte?_eq_none (h : ∀ c ∈ cs, isSought c = false) : findByte? isSought cs = none := by
  induction cs with
  | nil => rfl
  | cons c cs ih =>
    obtain ⟨hc, hcs⟩ := List.forall_mem_cons.mp h
    rw [findByte?, hc, ih hcs]
    rfl

/-- In front of the first character of a kind are the bytes of those before it. -/
theorem findByte?_append (h : ∀ c ∈ before, isSought c = false) (hc : isSought c = true)
    (after : List Char) : findByte? isSought (before ++ c :: after) = some (byteLength before) := by
  induction before with
  | nil => exact if_pos hc
  | cons d before ih =>
    obtain ⟨hd, hbefore⟩ := List.forall_mem_cons.mp h
    rw [List.cons_append, findByte?, hd, ih hbefore]
    rfl

end Text

namespace TreeBuilder

open Text

variable {before after expression cs : List Char}

/-! ## The loop -/

/-- The loop over the source of an unknown tag: what is left of it, and what has been built. -/
structure ForeignLoop where
  rest : List Char
  builder : TreeBuilder

namespace ForeignLoop

/-- What a round comes to: the loop goes on, or all has been built. -/
inductive Outcome where
  | goesOn (l : ForeignLoop)
  | ends (b : TreeBuilder)

/-- Keeps a mark, which is at a byte offset, with the text in front of it. -/
def keepMark? (l : ForeignLoop) (mark : Nat) : Option Outcome := do
  let (text, after) ← cutAt? (mark + 1) l.rest
  return .goesOn ⟨after, l.builder.pushText (String.ofList text)⟩

/-- Adds a pair of marks with the text in front of it. One mark is at a byte offset, the other at a
byte offset into what is behind the first. -/
def takePair? (span : Span) (l : ForeignLoop) (mark : Nat) (after : List Char) (close : Nat) :
    Option Outcome := do
  let (text, _) ← cutAt? mark l.rest
  let (expression, _) ← cutAt? close after
  let (_, rest) ← cutAt? (close + 1) after
  return .goesOn ⟨rest, (l.builder.pushText (String.ofList text)).push
    (.interpolation (String.ofList expression) span)⟩

/-- Where the partner of a mark is, as a byte offset behind the mark: at the first character that
ends a reference, if this is a mark too. -/
def partner? (after : List Char) : Option (Option Nat) :=
  match findByte? endsReference after with
  | none => some none
  | some close => do
    let (_, found) ← cutAt? close after
    return if found.head? = some '#' then some close else none

/-- A round, if every slice in it can be taken. -/
def round? (span : Span) (l : ForeignLoop) : Option Outcome :=
  match findByte? (· == '#') l.rest with
  | none => some (.ends (l.builder.pushText (String.ofList l.rest)))
  | some mark => do
    let (_, after) ← cutAt? (mark + 1) l.rest
    match ← partner? after with
    | none => l.keepMark? mark
    | some close => l.takePair? span mark after close

/-- Goes round until all has been built, in no more than so many rounds. -/
def run? (span : Span) : (rounds : Nat) → ForeignLoop → Option TreeBuilder
  | 0, _ => none
  | rounds + 1, l =>
    match l.round? span with
    | none => none
    | some (.ends b) => some b
    | some (.goesOn l) => l.run? span rounds

/-! ## What the loop builds -/

variable {b : TreeBuilder} {span : Span}

theorem keepMark?_eq (before after : List Char) :
    keepMark? ⟨before ++ '#' :: after, b⟩ (byteLength before) =
      some (.goesOn ⟨after, b.pushText (String.ofList (before ++ ['#']))⟩) := by
  rw [keepMark?, cutAt?_behind rfl]
  rfl

theorem takePair?_eq (before expression rest : List Char) :
    takePair? span ⟨before ++ '#' :: (expression ++ '#' :: rest), b⟩ (byteLength before)
        (expression ++ '#' :: rest) (byteLength expression) =
      some (.goesOn ⟨rest, (b.pushText (String.ofList before)).push
        (.interpolation (String.ofList expression) span)⟩) := by
  rw [takePair?, cutAt?_byteLength, cutAt?_byteLength, cutAt?_behind rfl]
  rfl

/-- A search by bytes finds the partner that a search by characters finds. -/
theorem partner?_eq (after : List Char) :
    partner? after = some ((closeInterpolation after).map fun split => byteLength split.1) := by
  rw [partner?]
  -- what the bytes are searched for decides in the search by characters as well
  obtain ⟨expression, rest, hplain, rfl⟩ | ⟨hnone, hplain | hend⟩ := behind_mark_cases after
  · rw [findByte?_append hplain rfl, closeInterpolation_of_plain hplain.plain]
    dsimp only
    rw [cutAt?_byteLength]
    rfl
  · rw [findByte?_eq_none hplain, hnone]
    rfl
  · obtain ⟨expression, c, rest, hplain, hc, hmark, rfl⟩ := hend
    have hfound : ¬(c :: rest).head? = some '#' := fun heq => hmark (Option.some.inj heq)
    rw [findByte?_append hplain hc, hnone]
    dsimp only
    rw [cutAt?_byteLength]
    exact congrArg some (if_neg hfound)

/-- The round in which no mark is left. -/
theorem round?_plain (h : '#' ∉ cs) :
    round? span ⟨cs, b⟩ = some (.ends (b.pushText (String.ofList cs))) := by
  rw [round?, findByte?_eq_none (notMark_of_plain h)]

/-- A round over a mark goes by whether the mark has a partner. -/
theorem round?_mark (h : '#' ∉ before) (after : List Char) :
    round? span ⟨before ++ '#' :: after, b⟩ =
      match closeInterpolation after with
      | none => keepMark? ⟨before ++ '#' :: after, b⟩ (byteLength before)
      | some (expression, _) =>
        takePair? span ⟨before ++ '#' :: after, b⟩ (byteLength before) after
          (byteLength expression) := by
  rw [round?, findByte?_append (notMark_of_plain h) rfl]
  dsimp only
  rw [cutAt?_behind rfl]
  dsimp only [bind, Option.bind]
  rw [partner?_eq]
  cases closeInterpolation after <;> rfl

/-- Each round but the last passes a mark, so the loop ends in one round more than there are marks.
It has built the pieces then, one after the other. -/
theorem run?_eq {rounds : Nat} (h : cs.count '#' < rounds) :
    run? span rounds ⟨cs, b⟩ = some ((foreignPieces span cs).foldl pushPiece b) := by
  induction cs using reading_induction generalizing b rounds with
  | plain cs hplain =>
    obtain ⟨rounds, rfl⟩ := Nat.exists_eq_add_one.mpr (Nat.zero_lt_of_lt h)
    rw [run?, round?_plain hplain, foreignPieces_plain span hplain]
    rfl
  | pair before expression rest hbefore hplain ih =>
    obtain ⟨rounds, rfl⟩ := Nat.exists_eq_add_one.mpr (Nat.zero_lt_of_lt h)
    have hrest : rest.count '#' < rounds := by
      simp only [List.count_append, List.count_cons_self] at h
      omega
    rw [run?, round?_mark hbefore, closeInterpolation_of_plain hplain.plain,
      foreignPieces_pair span hbefore hplain]
    dsimp only
    rw [takePair?_eq]
    exact ih hrest
  | stray before after hbefore hnone ih =>
    obtain ⟨rounds, rfl⟩ := Nat.exists_eq_add_one.mpr (Nat.zero_lt_of_lt h)
    have hafter : after.count '#' < rounds := by
      simp only [List.count_append, List.count_cons_self] at h
      omega
    rw [run?, round?_mark hbefore, hnone, foreignPieces_stray span hbefore hnone]
    dsimp only
    rw [keepMark?_eq]
    exact ih hafter

-- The character between the first two marks takes two bytes, and the third mark has no partner.
example : run? ⟨0, 19, 1, 1⟩ 4 ⟨"<a b=\"#é#\" c=\"#1\">".toList, ⟨[.text "x"], []⟩⟩ =
    some ⟨[.text "\" c=\"#1\">", .interpolation "é" ⟨0, 19, 1, 1⟩, .text "x<a b=\""], []⟩ := rfl

end ForeignLoop

/-! ## Where the marks are -/

/-- The expression of a reference ends at the first character that may end it. -/
theorem noEnd_of_mem_foreignPieces {span place : Span} {expression : String}
    (h : .interpolation expression place ∈ foreignPieces span cs) : NoEnd expression.toList := by
  induction cs using reading_induction with
  | plain cs hplain =>
    rw [foreignPieces_plain span hplain] at h
    cases List.mem_singleton.mp h
  | pair before first rest hbefore hfirst ih =>
    rw [foreignPieces_pair span hbefore hfirst, List.mem_cons, List.mem_cons] at h
    obtain h | h | h := h
    · cases h
    · cases h
      rw [String.toList_ofList]
      exact hfirst
    · exact ih h
  | stray before after hbefore hnone ih =>
    rw [foreignPieces_stray span hbefore hnone, List.mem_cons] at h
    obtain h | h := h
    · cases h
    · exact ih h

/-- A mark in a text is the last character of it, and has no partner in the pieces behind it. -/
theorem text_of_foreignPieces {span : Span} {front back : List Node} {text : String}
    (h : foreignPieces span cs = front ++ .text text :: back) :
    '#' ∉ text.toList ∨ ∃ before, '#' ∉ before ∧ text.toList = before ++ ['#'] ∧
      closeInterpolation (sourceOf back) = none := by
  -- in each case, the text is one of the first pieces or one of those behind
  induction cs using reading_induction generalizing front with
  | plain cs hplain =>
    rw [foreignPieces_plain span hplain] at h
    rcases front with _ | ⟨piece, _ | ⟨piece', front⟩⟩
    · cases h
      exact .inl (by rwa [String.toList_ofList])
    · cases h
    · cases h
  | pair before expression rest hbefore hplain ih =>
    rw [foreignPieces_pair span hbefore hplain] at h
    rcases front with _ | ⟨piece, _ | ⟨piece', front⟩⟩
    · cases h
      exact .inl (by rwa [String.toList_ofList])
    · cases h
    · obtain ⟨-, h⟩ := List.cons.inj h
      exact ih (List.cons.inj h).2
  | stray before after hbefore hnone ih =>
    rw [foreignPieces_stray span hbefore hnone] at h
    rcases front with _ | ⟨piece, front⟩
    · cases h
      refine .inr ⟨before, hbefore, String.toList_ofList, ?_⟩
      rw [sourceOf_foreignPieces]
      exact hnone
    · exact ih (List.cons.inj h).2

/-- The mark at an offset has a partner, as the scanner sees it in text: between the two is an
expression, and text goes on behind the partner. -/
structure OpensPair (source : List Char) (mark : Nat) (expression after : List Char) : Prop where
  stands : source[mark]? = some '#'
  partner : closingHash source (mark + 1) = some (mark + 1 + expression.length)
  lead_eq : lead '#' (source.drop (mark + 1)) = .markup (.interpolation expression after)

/-- The mark at an offset has no partner, as the scanner sees it in text. -/
structure StandsAlone (source : List Char) (mark : Nat) : Prop where
  stands : source[mark]? = some '#'
  partner : closingHash source (mark + 1) = none
  lead_eq : lead '#' (source.drop (mark + 1)) = .literal

theorem drop_behind_mark (past after : List Char) :
    (past ++ '#' :: after).drop (past.length + 1) = after := by
  rw [← List.drop_drop, List.drop_left]
  rfl

theorem opensPair_append (past : List Char) (h : NoEnd expression) (after : List Char) :
    OpensPair (past ++ '#' :: (expression ++ '#' :: after)) past.length expression after := by
  have hpair := closeInterpolation_of_plain h.plain after
  refine ⟨?_, ?_, ?_⟩
  · simp
  · rw [closingHash_eq, drop_behind_mark, hpair]
    rfl
  · rw [drop_behind_mark]
    exact lead_of_closeInterpolation hpair

theorem standsAlone_append (past : List Char) (h : closeInterpolation after = none) :
    StandsAlone (past ++ '#' :: after) past.length := by
  refine ⟨?_, ?_, ?_⟩
  · simp
  · rw [closingHash_eq, drop_behind_mark, h]
    rfl
  · rw [drop_behind_mark]
    unfold lead
    rw [if_neg (by decide), if_pos rfl, h]

/-- Pieces of a source that is cut at its `#` marks where text is. Offsets count characters. -/
structure CutAtMarks (source : List Char) (span : Span) (pieces : List Node) : Prop where
  /-- Read from left to right, the pieces are the source. -/
  source_eq : sourceOf pieces = source
  /-- A piece is a text or a reference. -/
  kinds : ∀ piece ∈ pieces,
    (∃ text, piece = .text text) ∨ ∃ expression, piece = .interpolation expression span
  /-- A reference begins at a mark that has a partner, and ends with that partner. -/
  reference : ∀ {front back : List Node} {expression : String} {place : Span},
    pieces = front ++ .interpolation expression place :: back →
      OpensPair source (sourceOf front).length expression.toList (sourceOf back)
  /-- A mark that is in a text has no partner. -/
  literal : ∀ {front back : List Node} {text : String} {i : Nat},
    pieces = front ++ .text text :: back → text.toList[i]? = some '#' →
      StandsAlone source ((sourceOf front).length + i)

/-- The only mark of a text that ends with it. -/
theorem eq_length_of_mark {i : Nat} (h : '#' ∉ before)
    (hmark : (before ++ ['#'])[i]? = some '#') : i = before.length := by
  rw [List.getElem?_append] at hmark
  split at hmark
  · exact absurd (List.mem_of_getElem? hmark) h
  · next hle =>
    obtain ⟨hlt, -⟩ := List.getElem?_eq_some_iff.mp hmark
    rw [List.length_singleton] at hlt
    omega

/-- The source of an unknown tag is cut at its marks as text is. -/
theorem cutAtMarks_foreignPieces (span : Span) (cs : List Char) :
    CutAtMarks cs span (foreignPieces span cs) := by
  have hsource := sourceOf_foreignPieces span cs
  refine ⟨hsource, foreignPieces_kinds span cs, ?_, ?_⟩
  · intro front back expression place h
    have hplain : NoEnd expression.toList := by
      apply noEnd_of_mem_foreignPieces
      rw [h]
      exact List.mem_append_right front (List.mem_cons_self ..)
    have hcut : cs = sourceOf front ++ '#' :: (expression.toList ++ '#' :: sourceOf back) := by
      rw [← hsource, h, sourceOf_append, sourceOf_cons]
      simp [Node.source, interpolationSource]
    rw [hcut]
    exact opensPair_append (sourceOf front) hplain (sourceOf back)
  · intro front back text i h hmark
    obtain hnone | ⟨before, hbefore, htext, hnone⟩ := text_of_foreignPieces h
    · exact absurd (List.mem_of_getElem? hmark) hnone
    · have hi : i = before.length := eq_length_of_mark hbefore (htext ▸ hmark)
      -- the mark ends its piece, so what is behind it are the pieces behind
      have hcut : cs = (sourceOf front ++ before) ++ '#' :: sourceOf back := by
        rw [← hsource, h, sourceOf_append, sourceOf_cons, Node.source, htext]
        simp
      rw [hi, ← List.length_append, hcut]
      exact standsAlone_append (sourceOf front ++ before) hnone

/-- Text joins the text at the end of a row. -/
theorem pushText_of_text (previous text : String) (before : List Node)
    (opened : List (Tag × List Node)) :
    (⟨.text previous :: before, opened⟩ : TreeBuilder).pushText text =
      ⟨.text (previous ++ text) :: before, opened⟩ := by
  refine pushText_cases _ text ?_ ?_ ?_
  · intro hempty
    rw [hempty, String.append_empty]
  · intro previous' rest _ hcurrent
    cases hcurrent
    rfl
  · intro _ hapart
    exact absurd rfl (hapart previous before)

/-- For every lexeme, the loop ends without a slice that it cannot take, and has added the pieces one
after the other. In these the marks are paired as the scanner pairs them in text, nothing is lost,
and the first of them joins a text that it comes next to. -/
theorem pushForeign_pairs_marks (b : TreeBuilder) (lexeme : String) (span : Span) :
    ForeignLoop.run? span (lexeme.toList.count '#' + 1) ⟨lexeme.toList, b⟩ =
        some (b.pushForeign lexeme span) ∧
      CutAtMarks lexeme.toList span (foreignPieces span lexeme.toList) ∧
      ∃ first others, foreignPieces span lexeme.toList = .text first :: others ∧
        ∀ previous before opened,
          (⟨.text previous :: before, opened⟩ : TreeBuilder).pushForeign lexeme span =
            others.foldl pushPiece ⟨.text (previous ++ first) :: before, opened⟩ := by
  refine ⟨ForeignLoop.run?_eq (Nat.lt_succ_self _), cutAtMarks_foreignPieces _ _, ?_⟩
  obtain ⟨first, others, hpieces⟩ := foreignPieces_first span lexeme.toList
  refine ⟨first, others, hpieces, ?_⟩
  intro previous before opened
  rw [pushForeign, hpieces, List.foldl_cons, pushPiece, pushText_of_text]

end TreeBuilder

end TagTemplate
