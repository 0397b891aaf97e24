import Mathlib.Data.List.Forall2
import TagTemplate.Proofs.Source.CommentInsertion
import TagTemplate.Proofs.Source.Stretch

/-!
# Tags by other names

A tag can be written with any name that stands for it. When names of tags in a source are replaced
by such names, the scanner finds the same tokens in the same lines, by their new names
(`Scanner.Renamed.itemsAt`). Names are nothing that it looks for: a tag ends where it has ended,
even if that is because a quote never closes (`SameQuotes.closeTag`), and what a literal character
could begin would have to end before the next tag.
-/

namespace TagTemplate

/-! ## Quotes -/

/-- Two texts that are alike to a search for the end of a tag: the same quote is open behind them,
and a `>` stands in both of them or in neither, outside of quotes or anywhere. -/
structure SameQuotes (cs cs' : List Char) : Prop where
  after : ∀ quote, (∀ mark, quote = some mark → mark = '"' ∨ mark = '\'') →
    quoteAfter quote cs' = quoteAfter quote cs
  outside : ∀ quote, (∀ mark, quote = some mark → mark = '"' ∨ mark = '\'') →
    ('>' ∈ outsideQuotes quote cs' ↔ '>' ∈ outsideQuotes quote cs)
  anywhere : '>' ∈ cs' ↔ '>' ∈ cs

/-- A text without quotes and `>` leaves the quote that is open as it is, and shows no `>`. -/
theorem quoteAfter_of_name {cs : List Char} (h : ∀ c ∈ cs, c ≠ '"' ∧ c ≠ '\'' ∧ c ≠ '>')
    {quote : Option Char} (hquote : ∀ mark, quote = some mark → mark = '"' ∨ mark = '\'') :
    quoteAfter quote cs = quote ∧ '>' ∉ outsideQuotes quote cs := by
  cases quote with
  | none =>
    have hplain : ∀ c ∈ cs, ¬ (c = '"' ∨ c = '\'') := by
      intro c hc
      obtain ⟨hdouble, hsingle, -⟩ := h c hc
      exact not_or.mpr ⟨hdouble, hsingle⟩
    obtain ⟨hafter, houtside⟩ := quoteAfter_of_plain hplain
    rw [houtside]
    exact ⟨hafter, fun hmem => (h _ hmem).2.2 rfl⟩
  | some mark =>
    have hmark : mark ∉ cs := by
      intro hmem
      obtain ⟨hdouble, hsingle, -⟩ := h mark hmem
      exact (hquote mark rfl).elim hdouble hsingle
    obtain ⟨hafter, houtside⟩ := quoteAfter_inside hmark
    rw [houtside]
    exact ⟨hafter, List.not_mem_nil⟩

/-- The end of a tag is not found outside of quotes where no `>` stands outside of them. -/
theorem closeTagOutsideQuotes_of_not_mem {quote : Option Char} {cs : List Char}
    (h : '>' ∉ outsideQuotes quote cs) :
    closeTagOutsideQuotes quote cs = .error (quoteAfter quote cs).isSome := by
  have hnil := closeTagOutsideQuotes_append_eq h []
  rw [List.append_nil] at hnil
  rw [hnil, closeTagOutsideQuotes]
  rfl

theorem closeTagAnywhere_of_not_mem {inside : List Char} (h : '>' ∉ inside) (rest : List Char) :
    closeTagAnywhere (inside ++ '>' :: rest) = some (inside, rest) := by
  induction inside with
  | nil => rfl
  | cons c inside ih =>
    rw [List.mem_cons, not_or] at h
    rw [List.cons_append, closeTagAnywhere, if_neg (Ne.symm h.1), ih h.2]
    rfl

/-- The first `>` of all ends a tag if it is not ended outside of quotes. -/
theorem not_mem_of_closeTagAnywhere {cs inside rest : List Char}
    (h : closeTagAnywhere cs = some (inside, rest)) : '>' ∉ inside := by
  induction cs generalizing inside with
  | nil => cases h
  | cons c cs ih =>
    rw [closeTagAnywhere] at h
    split at h
    · cases h
      exact List.not_mem_nil
    · next hc =>
      obtain ⟨⟨inside', after⟩, hclose, hpair⟩ := Option.map_eq_some_iff.mp h
      cases hpair
      rw [List.mem_cons, not_or]
      exact ⟨Ne.symm hc, ih hclose⟩

namespace SameQuotes

variable {cs cs' ds ds' : List Char}

theorem refl (cs : List Char) : SameQuotes cs cs :=
  ⟨fun _ _ => rfl, fun _ _ => Iff.rfl, Iff.rfl⟩

theorem append (h : SameQuotes cs cs') (hnext : SameQuotes ds ds') :
    SameQuotes (cs ++ ds) (cs' ++ ds') where
  after quote hquote := by
    rw [quoteAfter_append, quoteAfter_append, h.after quote hquote]
    exact hnext.after _ fun mark => isMark_of_quoteAfter hquote
  outside quote hquote := by
    rw [outsideQuotes_append, outsideQuotes_append, List.mem_append, List.mem_append,
      h.after quote hquote, h.outside quote hquote]
    exact or_congr_right (hnext.outside _ fun mark => isMark_of_quoteAfter hquote)
  anywhere := by
    rw [List.mem_append, List.mem_append, h.anywhere, hnext.anywhere]

/-- So are any two names. -/
theorem names {name name' : String} (hname : IsWrittenName name) (hname' : IsWrittenName name') :
    SameQuotes name.toList name'.toList := by
  have hplain : ∀ {name : String}, IsWrittenName name →
      ∀ c ∈ name.toList, c ≠ '"' ∧ c ≠ '\'' ∧ c ≠ '>' := by
    intro name hname c hc
    obtain ⟨hdouble, hsingle, hend, -⟩ := hname.plain c hc
    exact ⟨hdouble, hsingle, hend⟩
  refine ⟨?_, ?_, ?_⟩
  · intro quote hquote
    rw [(quoteAfter_of_name (hplain hname) hquote).1, (quoteAfter_of_name (hplain hname') hquote).1]
  · intro quote hquote
    exact iff_of_false (quoteAfter_of_name (hplain hname') hquote).2
      (quoteAfter_of_name (hplain hname) hquote).2
  · exact iff_of_false (fun hmem => (hplain hname' _ hmem).2.2 rfl)
      fun hmem => (hplain hname _ hmem).2.2 rfl

/-- A tag ends at the same `>`. -/
theorem closeTag {inside inside' rest rest' : List Char} (hinside : SameQuotes inside inside')
    (hrest : SameQuotes rest rest')
    (h : TagTemplate.closeTag (inside ++ '>' :: rest) = some (inside, rest)) :
    TagTemplate.closeTag (inside' ++ '>' :: rest') = some (inside', rest') := by
  have hnone : ∀ mark, (none : Option Char) = some mark → mark = '"' ∨ mark = '\'' := by
    intro mark hmark
    cases hmark
  cases hend : closeTagOutsideQuotes none (inside ++ '>' :: rest) with
  | ok split =>
    rw [TagTemplate.closeTag, hend] at h
    cases h
    obtain ⟨hclosed, hgt⟩ := closed_of_closeTagOutsideQuotes hend
    rw [← hinside.after none hnone] at hclosed
    rw [← hinside.outside none hnone] at hgt
    exact closeTag_of_hidden (hidden_of_quoteAfter hclosed hgt) rest'
  | error isOpen =>
    rw [TagTemplate.closeTag, hend] at h
    cases isOpen with
    | false => cases h
    | true =>
      -- the quote that never closes does not close in the other text either
      have hall : SameQuotes (inside ++ '>' :: rest) (inside' ++ '>' :: rest') :=
        hinside.append ((refl ['>']).append hrest)
      have hgt := gt_not_mem_of_closeTagOutsideQuotes hend
      rw [closeTagOutsideQuotes_of_not_mem hgt, ← hall.after none hnone] at hend
      rw [← hall.outside none hnone] at hgt
      have hfirst : '>' ∉ inside' := by
        rw [hinside.anywhere]
        exact not_mem_of_closeTagAnywhere h
      rw [TagTemplate.closeTag, closeTagOutsideQuotes_of_not_mem hgt, hend]
      exact closeTagAnywhere_of_not_mem hfirst rest'

end SameQuotes

/-! ## Renamed sources -/

/-- What stands in a tag, with a slash in front if it is a closing one: its name and more. -/
def insideTag (closing : Bool) (name : String) (more : List Char) : List Char :=
  (if closing then ['/'] else []) ++ name.toList ++ more

/-- A tag ends in the same way by any name. -/
theorem SameQuotes.insideTag {name name' : String} (hname : IsWrittenName name)
    (hname' : IsWrittenName name') (closing : Bool) (more : List Char) :
    SameQuotes (insideTag closing name more) (insideTag closing name' more) :=
  ((refl _).append (names hname hname')).append (refl more)

theorem opensTag_insideTag (closing : Bool) {name : String} (hname : IsWrittenName name)
    (more rest : List Char) : opensTag (insideTag closing name more ++ rest) = true := by
  obtain ⟨c, cs, hcs, hc⟩ := hname.chars_eq
  rw [insideTag, hcs]
  cases closing with
  | false => exact opensTag_of_isAlpha hc _
  | true => exact hc

namespace Scanner

variable {same : String → String → Prop}

/-- The second source is the first one with the names of some tags replaced by names that are the
same to whoever looks them up, which is done folded. The first source is read as the scanner reads
it; what is passed is as it was, or a tag whose name is replaced. -/
inductive Renamed (same : String → String → Prop) : List Char → List Char → Prop
  | done : Renamed same [] []
  | past {c : Char} {part rest rest' : List Char} (hpassed : passed c (part ++ rest) = some rest)
    (h : Renamed same rest rest') : Renamed same (c :: part ++ rest) (c :: part ++ rest')
  | tag {closing : Bool} {name name' : String} {more rest rest' : List Char}
    (hname : IsWrittenName name) (hname' : IsWrittenName name')
    (hmore : more.head?.any isTagNameChar = false)
    (hsame : same (Text.foldAscii name) (Text.foldAscii name'))
    (hclose : closeTag (insideTag closing name more ++ '>' :: rest) =
      some (insideTag closing name more, rest))
    (h : Renamed same rest rest') :
    Renamed same ('<' :: insideTag closing name more ++ '>' :: rest)
      ('<' :: insideTag closing name' more ++ '>' :: rest')

namespace Renamed

variable {rest rest' : List Char}

theorem sameQuotes (h : Renamed same rest rest') : SameQuotes rest rest' := by
  induction h with
  | done => exact .refl []
  | past hpassed h ih => exact (SameQuotes.refl _).append ih
  | @tag closing name name' more rest rest' hname hname' hmore hsame hclose h ih =>
    have hinside := SameQuotes.insideTag hname hname' closing more
    exact ((SameQuotes.refl ['<']).append hinside).append ((SameQuotes.refl ['>']).append ih)

/-- The sources are the same up to a `<`. -/
theorem same_start (h : Renamed same rest rest') : rest = rest' ∨
    ∃ before after after', rest = before ++ '<' :: after ∧ rest' = before ++ '<' :: after' := by
  induction h with
  | done => exact .inl rfl
  | @past c part rest rest' hpassed h ih =>
    rcases ih with rfl | ⟨before, after, after', rfl, rfl⟩
    · exact .inl rfl
    · exact .inr ⟨c :: part ++ before, after, after', by rw [List.append_assoc],
        by rw [List.append_assoc]⟩
  | tag => exact .inr ⟨[], _, _, rfl, rfl⟩

/-- A literal character is literal in front of both. -/
theorem lead_literal (h : Renamed same rest rest') {c : Char} (hlead : lead c rest = .literal) :
    lead c rest' = .literal := by
  rcases h.same_start with rfl | ⟨before, after, after', rfl, rfl⟩
  · exact hlead
  · exact lead_eq_literal_of_append hlead after'

end Renamed

/-! ## Items in a text run -/

/-- The items where a text run has begun, which has kept some characters, latest first. -/
def itemsInRun (kept : List Char) (start : Position) (rest : List Char) (pos : Position) :
    List (Except ScanError Token) :=
  match textRun kept start rest pos with
  | .error p => [.error ⟨.unterminatedComment, p.line, p.column⟩]
  | .ok run => run.tokens.map .ok ++ itemsFromMarkup run.stop run.markup

theorem itemsAt_eq_itemsInRun (rest : List Char) (pos : Position) :
    itemsAt rest pos = itemsInRun [] pos rest pos := by
  rw [itemsInRun]
  cases hrun : textRun [] pos rest pos with
  | error p => exact itemsAt_of_error hrun
  | ok run => exact itemsAt_eq_round hrun

variable {rest rest' : List Char} {start pos start' pos' : Position}

theorem itemsInRun_of_literal {c : Char} (h : lead c rest = .literal) (kept : List Char)
    (start pos : Position) : itemsInRun kept start (c :: rest) pos =
      itemsInRun (c :: kept) (if kept.isEmpty then pos else start) rest (pos.step c) := by
  rw [itemsInRun, textRun_of_literal h, itemsInRun]

theorem itemsInRun_of_comment {tail : List Char} (h : CommentTail 1 tail) (kept : List Char)
    (start : Position) (rest : List Char) (pos : Position) :
    itemsInRun kept start (openMark ++ tail ++ rest) pos =
      itemsInRun kept start rest (pos.advance (openMark ++ tail)) := by
  have hrun : textRun kept start (openMark ++ tail ++ rest) pos =
      textRun kept start rest (pos.advance (openMark ++ tail)) := by
    rw [List.append_assoc]
    exact textRun_of_comment (lead_openMark _) (closeComment_of_commentTail h rest) kept start pos
  rw [itemsInRun, hrun, itemsInRun]

/-- In front of markup the text run ends. -/
theorem itemsInRun_of_atMarkup {markup : Option Markup} (h : AtMarkup rest markup)
    (kept : List Char) (start pos : Position) : itemsInRun kept start rest pos =
      (TextRun.tokens ⟨kept.reverse, start, markup, rest, pos⟩).map .ok ++
        itemsFromMarkup pos markup := by
  rw [itemsInRun, textRun_of_atMarkup h]

/-- A tag that ends is one token. -/
theorem itemsFromMarkup_of_closeTag {afterMark inside after : List Char}
    (h : closeTag afterMark = some (inside, after)) (pos : Position) :
    itemsFromMarkup pos (some (.tag afterMark)) =
      .ok ⟨.ofTag inside, .between pos (pos.advance ('<' :: inside ++ ['>'])),
        String.ofList ('<' :: inside ++ ['>'])⟩ ::
          itemsAt after (pos.advance ('<' :: inside ++ ['>'])) := by
  rw [itemsFromMarkup, h]

/-! ## The items of a renamed source -/

/-- A text run has the same token in the same line. -/
theorem renamed_tokens {run run' : TextRun} (htext : run'.text = run.text)
    (hstart : run.start.Below 0 run'.start) :
    List.Forall₂ (RenamedItem same (.down 0) (.down 0)) (run.tokens.map .ok)
      (run'.tokens.map .ok) := by
  have htoken : run'.token.relocate (.down 0) = run.token.relocate (.down 0) := by
    rw [Token.relocate, Token.relocate, TextRun.token, TextRun.token, htext]
    exact congrArg (Token.mk _ · _) hstart.between
  rw [TextRun.tokens, TextRun.tokens, htext]
  split
  · exact .nil
  · exact .cons (.token (.kept htoken)) .nil

/-- A text run that ends in front of markup is followed by the items from there on. -/
theorem renamed_of_atMarkup {markup markup' : Markup} (hmarkup : AtMarkup rest (some markup))
    (hmarkup' : AtMarkup rest' (some markup')) (kept : List Char) (hstart : start.Below 0 start')
    (hitems : List.Forall₂ (RenamedItem same (.down 0) (.down 0))
      (itemsFromMarkup pos (some markup)) (itemsFromMarkup pos' (some markup'))) :
    List.Forall₂ (RenamedItem same (.down 0) (.down 0)) (itemsInRun kept start rest pos)
      (itemsInRun kept start' rest' pos') := by
  rw [itemsInRun_of_atMarkup hmarkup, itemsInRun_of_atMarkup hmarkup']
  refine List.rel_append ?_ hitems
  exact renamed_tokens rfl hstart

/-- A tag by another name makes a token by another name. -/
theorem renamed_ofTag {name name' : String} {more : List Char} (hname : IsWrittenName name)
    (hname' : IsWrittenName name') (hmore : more.head?.any isTagNameChar = false)
    (hsame : same (Text.foldAscii name) (Text.foldAscii name')) (closing : Bool)
    {span span' : Span} (hspan : span'.down 0 = span.down 0) (lexeme lexeme' : String) :
    Token.Renamed same (.down 0) (.down 0) ⟨.ofTag (insideTag closing name more), span, lexeme⟩
      ⟨.ofTag (insideTag closing name' more), span', lexeme'⟩ := by
  cases closing with
  | false =>
    by_cases hslash : (Text.trimChars more).getLast? = some '/'
    · have hkind : ∀ {name : String}, IsWrittenName name →
          Token.Kind.ofTag (insideTag false name more) = .tagOpen (Text.foldAscii name) _ true :=
        fun h => (h.ofTag_append hmore).trans (if_pos hslash)
      exact .opening (hkind hname) (hkind hname') hsame hspan
    · have hkind : ∀ {name : String}, IsWrittenName name →
          Token.Kind.ofTag (insideTag false name more) = .tagOpen (Text.foldAscii name) _ false :=
        fun h => (h.ofTag_append hmore).trans (if_neg hslash)
      exact .opening (hkind hname) (hkind hname') hsame hspan
  | true =>
    have hkind : ∀ {name : String}, IsWrittenName name →
        Token.Kind.ofTag (insideTag true name more) = .tagClose (Text.foldAscii name) := by
      intro name h
      show Token.Kind.tagClose (Text.foldAscii (String.ofList (tagName (name.toList ++ more)))) = _
      rw [h.tagName_append hmore, String.ofList_toList]
    exact .closing (hkind hname) (hkind hname') hsame hspan

/-- A tag by another name takes as many lines. -/
theorem below_of_names {name name' : String} (hname : IsWrittenName name)
    (hname' : IsWrittenName name') (closing : Bool) (more : List Char) (hpos : pos.Below 0 pos') :
    (pos.advance ('<' :: insideTag closing name more ++ ['>'])).Below 0
      (pos'.advance ('<' :: insideTag closing name' more ++ ['>'])) := by
  have hnone : ∀ {name : String}, IsWrittenName name → name.toList.count '\n' = 0 :=
    fun h => List.count_eq_zero.mpr fun hmem => (h.plain _ hmem).2.2.2 rfl
  have hline : pos'.line = pos.line + 0 := hpos
  show (Position.advance _ _).line = (Position.advance _ _).line + 0
  rw [advance_line, advance_line, hline]
  simp only [insideTag, List.count_append, List.count_cons, hnone hname, hnone hname', Nat.add_zero]

/-- A renamed source has the same tokens in the same lines, by their new names. -/
theorem Renamed.itemsInRun (h : Renamed same rest rest') (kept : List Char)
    (hstart : start.Below 0 start') (hpos : pos.Below 0 pos') :
    List.Forall₂ (RenamedItem same (.down 0) (.down 0)) (itemsInRun kept start rest pos)
      (itemsInRun kept start' rest' pos') := by
  -- along what is passed: literal characters and comments leave the scanner in its text run
  induction h generalizing kept start start' pos pos' with
  | done =>
    have hend : AtMarkup [] none := rfl
    rw [itemsInRun_of_atMarkup hend, itemsInRun_of_atMarkup hend]
    refine List.rel_append ?_ .nil
    exact renamed_tokens rfl hstart
  | @past c part rest rest' hpassed h ih =>
    rcases passed_cases hpassed with ⟨rfl, hlead⟩ | ⟨tail, hmark, htail⟩ |
      ⟨expression, rfl, rfl, hclose⟩ | ⟨inside, rfl, hopens, hclose⟩
    · show List.Forall₂ _ (Scanner.itemsInRun kept start (c :: rest) pos)
        (Scanner.itemsInRun kept start' (c :: rest') pos')
      rw [itemsInRun_of_literal hlead, itemsInRun_of_literal (h.lead_literal hlead)]
      refine ih (c :: kept) ?_ (hpos.advance [c])
      split
      · exact hpos
      · exact hstart
    · rw [hmark, itemsInRun_of_comment htail, itemsInRun_of_comment htail]
      exact ih kept hstart (hpos.advance _)
    · have hmarkup : ∀ rest, AtMarkup ('#' :: (expression ++ ['#']) ++ rest)
          (some (.interpolation expression rest)) := by
        intro rest
        have hclose' := closeInterpolation_of_close hclose rest
        refine ⟨'#', expression ++ ['#'] ++ rest, rfl, lead_of_closeInterpolation ?_⟩
        rwa [List.append_assoc]
      refine renamed_of_atMarkup (hmarkup rest) (hmarkup rest') kept hstart ?_
      have hstop := hpos.advance ('#' :: expression ++ ['#'])
      rw [itemsFromMarkup, itemsFromMarkup, itemsAt_eq_itemsInRun, itemsAt_eq_itemsInRun]
      refine .cons (.token (.kept ?_)) (ih [] hstop hstop)
      rw [Token.relocate, Token.relocate, hpos.between]
    · obtain rfl := eq_of_closeTag hclose
      rw [List.append_assoc] at hopens hclose
      have hopens' : opensTag (inside ++ '>' :: rest') = true :=
        opensTag_append_left (opensTag_of_append_gt hopens) _
      have hclose' := SameQuotes.closeTag (.refl inside) h.sameQuotes hclose
      rw [List.cons_append, List.cons_append, List.append_assoc, List.append_assoc]
      refine renamed_of_atMarkup (atMarkup_tag hopens) (atMarkup_tag hopens') kept hstart ?_
      have hstop := hpos.advance ('<' :: inside ++ ['>'])
      rw [itemsFromMarkup_of_closeTag hclose, itemsFromMarkup_of_closeTag hclose',
        itemsAt_eq_itemsInRun, itemsAt_eq_itemsInRun]
      refine .cons (.token (.kept ?_)) (ih [] hstop hstop)
      rw [Token.relocate, Token.relocate, hpos.between]
  | @tag closing name name' more rest rest' hname hname' hmore hsame hclose h ih =>
    have hclose' := (SameQuotes.insideTag hname hname' closing more).closeTag h.sameQuotes hclose
    have hopens := opensTag_insideTag closing hname more ('>' :: rest)
    have hopens' := opensTag_insideTag closing hname' more ('>' :: rest')
    refine renamed_of_atMarkup (atMarkup_tag hopens) (atMarkup_tag hopens') kept hstart ?_
    have hstop := below_of_names hname hname' closing more hpos
    rw [itemsFromMarkup_of_closeTag hclose, itemsFromMarkup_of_closeTag hclose',
      itemsAt_eq_itemsInRun, itemsAt_eq_itemsInRun]
    refine .cons (.token ?_) (ih [] hstop hstop)
    exact renamed_ofTag hname hname' hmore hsame closing hpos.between _ _

/-- So it is from a place in text on. -/
theorem Renamed.itemsAt (h : Renamed same rest rest') (hpos : pos.Below 0 pos') :
    List.Forall₂ (RenamedItem same (.down 0) (.down 0)) (itemsAt rest pos)
      (itemsAt rest' pos') := by
  rw [itemsAt_eq_itemsInRun, itemsAt_eq_itemsInRun]
  exact h.itemsInRun [] hpos hpos

end Scanner

end TagTemplate
