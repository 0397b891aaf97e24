import TagTemplate.Proofs.Source.AttributeText
import TagTemplate.Proofs.Source.Rounds

/-!
# Tokens of printed pieces

What the scanner makes of a piece of a printed template that stands in front of anything else:
text without marks, an expression between two `#` marks, an opening tag with its attributes, and a
closing tag. Each piece is one token, and the scanner goes on right behind it. For text, what
follows must begin with markup, or more text would join it.

That a tag ends at its own `>`, and not at one inside a value, is `Hidden`: a part of a tag that is
balanced in its quotes and shows no `>` outside of them does not end the tag.
-/

namespace TagTemplate

open Attributes

/-! ## Text -/

/-- A character that begins neither a tag nor an interpolation is literal, whatever follows. -/
theorem lead_of_plain {c : Char} (hlt : c ≠ '<') (hmark : c ≠ '#') (rest : List Char) :
    lead c rest = .literal := by
  unfold lead
  rw [if_neg hlt, if_neg hmark]

/-- A text run that has begun takes plain text up to the next markup. -/
theorem textRun_of_plain {text after : List Char} {markup : Option Markup}
    (hlt : '<' ∉ text) (hmark : '#' ∉ text) (h : AtMarkup after markup) {kept : List Char}
    (hkept : kept ≠ []) (start pos : Position) :
    textRun kept start (text ++ after) pos =
      .ok ⟨kept.reverse ++ text, start, markup, after, pos.advance text⟩ := by
  induction text generalizing kept pos with
  | nil =>
    rw [List.nil_append, textRun_of_atMarkup h, List.append_nil]
    rfl
  | cons c text ih =>
    rw [List.mem_cons, not_or] at hlt hmark
    rw [List.cons_append, textRun_of_literal (lead_of_plain (Ne.symm hlt.1) (Ne.symm hmark.1) _)]
    rw [if_neg (by simpa using hkept), ih hlt.2 hmark.2 (List.cons_ne_nil c kept)]
    rw [List.reverse_cons, List.append_assoc]
    rfl

namespace Scanner

/-- In front of markup the items are those from the markup on. -/
theorem itemsAt_of_atMarkup {rest : List Char} {markup : Option Markup} (h : AtMarkup rest markup)
    (pos : Position) : itemsAt rest pos = itemsFromMarkup pos markup :=
  items_of_atMarkup (s := inText rest pos) rfl h

/-- Plain text in front of markup is one token. -/
theorem itemsAt_text {text after : List Char} {markup : Option Markup} (hne : text ≠ [])
    (hlt : '<' ∉ text) (hmark : '#' ∉ text) (h : AtMarkup after markup) (pos : Position) :
    itemsAt (text ++ after) pos =
      .ok ⟨.text (String.ofList text), .between pos (pos.advance text), String.ofList text⟩ ::
        itemsAt after (pos.advance text) := by
  cases text with
  | nil => exact absurd rfl hne
  | cons c text =>
    have hrun : textRun [] pos (c :: text ++ after) pos =
        .ok ⟨c :: text, pos, markup, after, pos.advance (c :: text)⟩ := by
      rw [List.mem_cons, not_or] at hlt hmark
      rw [List.cons_append, textRun_of_literal (lead_of_plain (Ne.symm hlt.1) (Ne.symm hmark.1) _)]
      exact textRun_of_plain hlt.2 hmark.2 h (List.cons_ne_nil c []) pos _
    rw [itemsAt_eq_round hrun, itemsAt_of_atMarkup h]
    rfl

end Scanner

/-! ## Interpolations -/

/-- Whether an interpolation closes is decided behind the characters that do not end it. -/
theorem closeInterpolation_plain_append {before : List Char}
    (h : ∀ c ∈ before, c ≠ '#' ∧ c ≠ '<' ∧ c ≠ '>' ∧ c ≠ '\n') (after : List Char) :
    closeInterpolation (before ++ after) =
      (closeInterpolation after).map fun split => (before ++ split.1, split.2) := by
  induction before with
  | nil => exact Option.map_id'.symm
  | cons c before ih =>
    obtain ⟨hmark, hplain⟩ := h c (List.mem_cons_self ..)
    rw [List.cons_append, closeInterpolation, if_neg hmark, if_neg (by simpa using hplain),
      ih fun d hd => h d (List.mem_cons_of_mem _ hd), Option.map_map]
    rfl

/-- An expression without marks and line ends is closed by the next `#`. -/
theorem closeInterpolation_of_plain {expression : List Char}
    (h : ∀ c ∈ expression, c ≠ '#' ∧ c ≠ '<' ∧ c ≠ '>' ∧ c ≠ '\n') (after : List Char) :
    closeInterpolation (expression ++ '#' :: after) = some (expression, after) := by
  rw [closeInterpolation_plain_append h]
  exact congrArg (fun cs => some (cs, after)) (List.append_nil expression)

/-- Such an expression between two `#` marks is an interpolation. -/
theorem atMarkup_interpolation {expression : List Char}
    (h : ∀ c ∈ expression, c ≠ '#' ∧ c ≠ '<' ∧ c ≠ '>' ∧ c ≠ '\n') (after : List Char) :
    AtMarkup ('#' :: expression ++ '#' :: after) (some (.interpolation expression after)) := by
  refine ⟨'#', expression ++ '#' :: after, rfl, ?_⟩
  unfold lead
  rw [if_neg (by decide), if_pos rfl, closeInterpolation_of_plain h]

/-! ## Where a tag ends -/

/-- Inside a quote its mark closes it, and any other character is passed over. -/
theorem closeTagOutsideQuotes_inside (quote c : Char) (rest : List Char) :
    closeTagOutsideQuotes (some quote) (c :: rest) =
      (closeTagOutsideQuotes (if c = quote then none else some quote) rest).map
        fun split => (c :: split.1, split.2) := by
  rw [closeTagOutsideQuotes]
  by_cases hc : c = quote
  · rw [if_pos hc, if_pos hc]
  · rw [if_neg hc, if_neg hc]

/-- Outside quotes a mark opens one, and any other character but `>` is passed over. -/
theorem closeTagOutsideQuotes_outside {c : Char} (hend : c ≠ '>') (rest : List Char) :
    closeTagOutsideQuotes none (c :: rest) =
      (closeTagOutsideQuotes (if c = '"' ∨ c = '\'' then some c else none) rest).map
        fun split => (c :: split.1, split.2) := by
  rw [closeTagOutsideQuotes]
  by_cases hc : c = '"' ∨ c = '\''
  · rw [if_pos hc, if_pos hc]
  · rw [if_neg hc, if_neg hc, if_neg hend]

/-- A part of a tag, begun outside quotes, that does not end the tag and leaves no quote open. -/
def Hidden (part : List Char) : Prop :=
  ∀ rest inside after, closeTagOutsideQuotes none rest = .ok (inside, after) →
    closeTagOutsideQuotes none (part ++ rest) = .ok (part ++ inside, after)

theorem Hidden.append {part next : List Char} (h : Hidden part) (hnext : Hidden next) :
    Hidden (part ++ next) := by
  intro rest inside after hrest
  rw [List.append_assoc, List.append_assoc]
  exact h _ _ _ (hnext _ _ _ hrest)

/-- Characters that are neither quotes nor `>`. -/
theorem hidden_of_plain {part : List Char} (h : ∀ c ∈ part, c ≠ '"' ∧ c ≠ '\'' ∧ c ≠ '>') :
    Hidden part := by
  intro rest inside after hrest
  induction part with
  | nil => exact hrest
  | cons c part ih =>
    obtain ⟨hdouble, hsingle, hend⟩ := h c (List.mem_cons_self ..)
    rw [List.cons_append, closeTagOutsideQuotes_outside hend]
    rw [if_neg (not_or.mpr ⟨hdouble, hsingle⟩), ih fun d hd => h d (List.mem_cons_of_mem _ hd)]
    rfl

/-- A doubled mark closes the quote and opens it again, so that after a value with its marks doubled
it is the mark behind the value that closes the quote. -/
theorem closeTagOutsideQuotes_doubledBy {mark : Char} (hmark : mark = '"' ∨ mark = '\'')
    (value : List Char) {rest inside after : List Char}
    (h : closeTagOutsideQuotes none rest = .ok (inside, after)) :
    closeTagOutsideQuotes (some mark) (doubledBy mark value ++ mark :: rest) =
      .ok (doubledBy mark value ++ mark :: inside, after) := by
  have hend : mark ≠ '>' := by
    rintro rfl
    exact absurd hmark (by decide)
  induction value with
  | nil =>
    show closeTagOutsideQuotes (some mark) (mark :: rest) = _
    rw [closeTagOutsideQuotes_inside, if_pos rfl, h]
    rfl
  | cons c value ih =>
    rw [doubledBy, List.flatMap_cons, List.append_assoc, List.append_assoc]
    by_cases hc : c = mark
    · -- out of the quote and back into it
      rw [if_pos hc]
      show closeTagOutsideQuotes (some mark) (mark :: mark :: (doubledBy mark value ++ mark :: rest)) = _
      rw [closeTagOutsideQuotes_inside, if_pos rfl, closeTagOutsideQuotes_outside hend,
        if_pos hmark, ih]
      rfl
    · rw [if_neg hc]
      show closeTagOutsideQuotes (some mark) (c :: (doubledBy mark value ++ mark :: rest)) = _
      rw [closeTagOutsideQuotes_inside, if_neg hc, ih]
      rfl

/-- A text in quotes in which the mark is doubled hides all that it holds. -/
theorem hidden_quoted {mark : Char} (hmark : mark = '"' ∨ mark = '\'') (value : List Char) :
    Hidden (mark :: (doubledBy mark value ++ [mark])) := by
  have hend : mark ≠ '>' := by
    rintro rfl
    exact absurd hmark (by decide)
  intro rest inside after hrest
  rw [List.cons_append, List.append_assoc, closeTagOutsideQuotes_outside hend, if_pos hmark,
    List.singleton_append, closeTagOutsideQuotes_doubledBy hmark value hrest]
  simp [Except.map]

/-- An attribute hides what its value holds. -/
theorem hidden_printEntry {entry : String × String} (h : isSmallName entry.1 = true) :
    Hidden (' ' :: printEntry entry) := by
  -- The name is plain, and the value stands in quotes.
  have hname : Hidden (' ' :: entry.1.toList ++ ['=']) := by
    obtain ⟨c, rest, hcs, hc, hrest⟩ := chars_of_isSmallName h
    have hsmall : ∀ d ∈ entry.1.toList, d.isLower = true ∨ d.isDigit = true ∨ d = '_' := by
      rw [hcs]
      exact List.forall_mem_cons.mpr ⟨Or.inl hc, hrest⟩
    apply hidden_of_plain
    intro d hd
    rw [List.cons_append, List.mem_cons, List.mem_append, List.mem_singleton] at hd
    rcases hd with rfl | hd | rfl
    · decide
    · refine ⟨?_, ?_, ?_⟩ <;> (rintro rfl; exact absurd (hsmall _ hd) (by decide))
    · decide
  have hsplit : ' ' :: printEntry entry =
      (' ' :: entry.1.toList ++ ['=']) ++ '"' :: (doubledBy '"' entry.2.toList ++ ['"']) := by
    simp [printEntry]
  rw [hsplit]
  exact hname.append (hidden_quoted (.inl rfl) entry.2.toList)

/-- Attributes hide what their values hold. -/
theorem hidden_spaced {entries : List (String × String)}
    (h : ∀ entry ∈ entries, isSmallName entry.1 = true) : Hidden (spaced entries) := by
  induction entries with
  | nil => exact hidden_of_plain fun c hc => nomatch hc
  | cons entry rest ih =>
    exact (hidden_printEntry (h entry (List.mem_cons_self ..))).append
      (ih fun e he => h e (List.mem_cons_of_mem _ he))

/-- A tag ends behind what it hides. -/
theorem closeTag_of_hidden {inside : List Char} (h : Hidden inside) (after : List Char) :
    closeTag (inside ++ '>' :: after) = some (inside, after) := by
  have hend : closeTagOutsideQuotes none ('>' :: after) = .ok ([], after) := rfl
  rw [closeTag, h _ _ _ hend, List.append_nil]

/-! ## Tags -/

/-- A name of a tag as it may be written: it begins with a letter and goes on with characters of a
name. -/
structure IsWrittenName (name : String) : Prop where
  letter : name.toList.head?.any Char.isAlpha = true
  chars : name.toList.all isTagNameChar = true

/-- A name as tags are stored, which is folded. -/
structure IsTagName (name : String) : Prop extends IsWrittenName name where
  folded : Text.foldAscii name = name

namespace IsWrittenName

variable {name : String}

theorem chars_eq (h : IsWrittenName name) :
    ∃ c rest, name.toList = c :: rest ∧ c.isAlpha = true := by
  have hletter := h.letter
  cases hcs : name.toList with
  | nil =>
    rw [hcs] at hletter
    cases hletter
  | cons c rest =>
    rw [hcs] at hletter
    exact ⟨c, rest, rfl, hletter⟩

/-- A name has nothing in it that could end a tag or a line. -/
theorem plain (h : IsWrittenName name) :
    ∀ c ∈ name.toList, c ≠ '"' ∧ c ≠ '\'' ∧ c ≠ '>' ∧ c ≠ '\n' := by
  have hchars := List.all_eq_true.mp h.chars
  intro c hc
  refine ⟨?_, ?_, ?_, ?_⟩ <;> (rintro rfl; exact absurd (hchars _ hc) (by decide +kernel))

/-- So it hides nothing. -/
theorem hidden (h : IsWrittenName name) : Hidden name.toList := by
  apply hidden_of_plain
  intro c hc
  obtain ⟨hdouble, hsingle, hend, -⟩ := h.plain c hc
  exact ⟨hdouble, hsingle, hend⟩

/-- A name is read off in front of anything that does not go on with it. -/
theorem tagName_append (h : IsWrittenName name) {rest : List Char}
    (hrest : rest.head?.any isTagNameChar = false) :
    tagName (name.toList ++ rest) = name.toList := by
  rw [tagName, List.takeWhile_append_of_pos (List.all_eq_true.mp h.chars)]
  cases rest with
  | nil => exact List.append_nil _
  | cons c rest =>
    rw [List.takeWhile_cons_of_neg (by simpa using hrest), List.append_nil]

/-- A name and what follows it make an opening tag of the folded name: what follows, without the
blanks at the ends and a slash at the very end, is its attribute text. -/
theorem ofTag_append (h : IsWrittenName name) {rest : List Char}
    (hrest : rest.head?.any isTagNameChar = false) :
    Token.Kind.ofTag (name.toList ++ rest) =
      if (Text.trimChars rest).getLast? = some '/' then
        .tagOpen (Text.foldAscii name)
          (String.ofList (Text.dropTrailingBlanks (Text.trimChars rest).dropLast)) true
      else .tagOpen (Text.foldAscii name) (String.ofList (Text.trimChars rest)) false := by
  have htake : tagName (name.toList ++ rest) = name.toList := h.tagName_append hrest
  have hdrop : (name.toList ++ rest).drop name.toList.length = rest := List.drop_left ..
  unfold Token.Kind.ofTag
  split
  · next after hafter =>
    obtain ⟨c, cs, hcs, hc⟩ := h.chars_eq
    rw [hcs] at hafter
    cases hafter
    exact absurd hc (by decide)
  · simp only [htake, hdrop, String.ofList_toList]

end IsWrittenName

/-- What stands between `<` and `>` in an opening tag. -/
def openingInside (name : String) (attributes : Attributes) : List Char :=
  name.toList ++ spaced attributes.toList

/-- What stands between `<` and `>` in a closing tag. -/
def closingInside (name : String) : List Char := '/' :: name.toList

variable {name : String} {attributes : Attributes}

theorem isBlank_of_isLower {c : Char} (h : c.isLower = true) : Text.isBlank c = false := by
  have hbounds : 97 ≤ c.toNat ∧ c.toNat ≤ 122 := isLower_iff.mp h
  simp [Text.isBlank]
  omega

/-- Attributes begin with a space and a small letter, and end in a quote. -/
theorem spaced_eq {entries : List (String × String)} (hne : entries ≠ [])
    (h : ∀ entry ∈ entries, isSmallName entry.1 = true) :
    ∃ c cs, spaced entries = ' ' :: c :: cs ++ ['"'] ∧ c.isLower = true := by
  induction entries with
  | nil => exact absurd rfl hne
  | cons entry rest ih =>
    obtain ⟨c, cs, hcs, hc, -⟩ := chars_of_isSmallName (h entry (List.mem_cons_self ..))
    have hcons : spaced (entry :: rest) = ' ' :: printEntry entry ++ spaced rest := rfl
    rw [hcons, printEntry, hcs]
    by_cases hrest : rest = []
    · exact ⟨c, cs ++ '=' :: '"' :: doubledBy '"' entry.2.toList, by simp [hrest, spaced], hc⟩
    · obtain ⟨d, ds, hds, -⟩ := ih hrest fun e he => h e (List.mem_cons_of_mem _ he)
      refine ⟨c, cs ++ '=' :: '"' :: doubledBy '"' entry.2.toList ++ '"' :: ' ' :: d :: ds, ?_, hc⟩
      rw [hds]
      simp

/-- Trimming the attributes of a tag takes the space in front of them. -/
theorem trimChars_spaced (h : ∀ entry ∈ attributes.toList, isSmallName entry.1 = true) :
    Text.trimChars (spaced attributes.toList) = print attributes := by
  rw [print]
  by_cases hne : attributes.toList = []
  · rw [hne]
    rfl
  · obtain ⟨c, cs, hcs, hc⟩ := spaced_eq hne h
    have hfront : Text.dropBlanks (' ' :: c :: cs ++ ['"']) = c :: cs ++ ['"'] :=
      List.dropWhile_cons_of_neg (Bool.eq_false_iff.mp (isBlank_of_isLower hc))
    rw [hcs, Text.trimChars, hfront, Text.dropTrailingBlanks, List.reverse_append]
    show (List.dropWhile Text.isBlank ('"' :: (c :: cs).reverse)).reverse = _
    rw [List.dropWhile_cons_of_neg (by decide)]
    simp

/-- The text of attributes does not end in a slash. -/
theorem getLast?_print (h : ∀ entry ∈ attributes.toList, isSmallName entry.1 = true) :
    (print attributes).getLast? ≠ some '/' := by
  rw [print]
  by_cases hne : attributes.toList = []
  · rw [hne]
    intro h
    cases h
  · obtain ⟨c, cs, hcs, -⟩ := spaced_eq hne h
    rw [hcs, List.cons_append, List.tail_cons, List.getLast?_concat]
    decide

/-- What follows a name is its attribute text, without the blanks at the ends, if no slash ends it.
-/
theorem ofTag_append (hname : IsTagName name) {rest : List Char}
    (hrest : rest.head?.any isTagNameChar = false)
    (hslash : (Text.trimChars rest).getLast? ≠ some '/') :
    Token.Kind.ofTag (name.toList ++ rest) =
      .tagOpen name (String.ofList (Text.trimChars rest)) false := by
  rw [hname.ofTag_append hrest, if_neg hslash, hname.folded]

/-- The characters of an opening tag make that tag again. -/
theorem ofTag_openingInside (hname : IsTagName name)
    (hattrs : ∀ entry ∈ attributes.toList, isSmallName entry.1 = true) :
    Token.Kind.ofTag (openingInside name attributes) =
      .tagOpen name (String.ofList (print attributes)) false := by
  have hspace : (spaced attributes.toList).head?.any isTagNameChar = false := by
    cases attributes.toList with
    | nil => rfl
    | cons entry rest => exact (by decide +kernel : isTagNameChar ' ' = false)
  have hslash := getLast?_print hattrs
  rw [← trimChars_spaced hattrs] at hslash ⊢
  exact ofTag_append hname hspace hslash

/-- The characters of a closing tag make a closing tag again. -/
theorem ofTag_closingInside (hname : IsTagName name) :
    Token.Kind.ofTag (closingInside name) = .tagClose name := by
  have htake : tagName name.toList = name.toList := by
    have hend : ([] : List Char).head?.any isTagNameChar = false := rfl
    simpa using hname.tagName_append hend
  rw [closingInside, Token.Kind.ofTag, htake, String.ofList_toList, hname.folded]

theorem hidden_openingInside (hname : IsTagName name)
    (hattrs : ∀ entry ∈ attributes.toList, isSmallName entry.1 = true) :
    Hidden (openingInside name attributes) :=
  hname.hidden.append (hidden_spaced hattrs)

theorem hidden_closingInside (hname : IsTagName name) : Hidden (closingInside name) := by
  have hslash : Hidden ['/'] := hidden_of_plain (List.forall_mem_singleton.mpr (by decide))
  exact hslash.append hname.hidden

/-- An opening tag is markup, and so is a closing one. -/
theorem atMarkup_tag {afterMark : List Char} (h : opensTag afterMark = true) :
    AtMarkup ('<' :: afterMark) (some (.tag afterMark)) := by
  refine ⟨'<', afterMark, rfl, ?_⟩
  unfold lead
  rw [if_pos rfl]
  split
  · exact absurd h Bool.false_ne_true
  · exact if_pos h

/-- A letter behind `<` opens a tag. -/
theorem opensTag_of_isAlpha {c : Char} (hc : c.isAlpha = true) (rest : List Char) :
    opensTag (c :: rest) = true := by
  unfold opensTag
  split
  · next heq =>
    cases heq
    exact absurd hc (by decide)
  · next heq =>
    cases heq
    exact hc
  · next heq => cases heq

theorem opensTag_append (hname : IsWrittenName name) (rest : List Char) :
    opensTag (name.toList ++ rest) = true := by
  obtain ⟨c, cs, hcs, hc⟩ := hname.chars_eq
  rw [hcs]
  exact opensTag_of_isAlpha hc _

theorem opensTag_openingInside (hname : IsTagName name) (attributes : Attributes)
    (rest : List Char) : opensTag (openingInside name attributes ++ rest) = true := by
  rw [openingInside, List.append_assoc]
  exact opensTag_append hname.toIsWrittenName _

theorem opensTag_closingInside (hname : IsTagName name) (rest : List Char) :
    opensTag (closingInside name ++ rest) = true := by
  obtain ⟨c, cs, hcs, hc⟩ := hname.chars_eq
  rw [closingInside, hcs]
  exact hc

/-- A tag that is hidden up to its end is one token. -/
theorem Scanner.itemsAt_tag {inside : List Char} (hhidden : Hidden inside) (after : List Char)
    (hopens : opensTag (inside ++ '>' :: after) = true) (pos : Position) :
    itemsAt ('<' :: inside ++ '>' :: after) pos =
      .ok ⟨.ofTag inside, .between pos (pos.advance ('<' :: inside ++ ['>'])),
        String.ofList ('<' :: inside ++ ['>'])⟩ ::
          itemsAt after (pos.advance ('<' :: inside ++ ['>'])) := by
  rw [List.cons_append, itemsAt_of_atMarkup (atMarkup_tag hopens), itemsFromMarkup]
  rw [closeTag_of_hidden hhidden]

end TagTemplate
