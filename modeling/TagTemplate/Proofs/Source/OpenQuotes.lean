import TagTemplate.Proofs.Source.Comments
import TagTemplate.Proofs.Source.Quotes

/-!
# Quotes that never close

Two readers look for quotes. The scanner goes through a tag from mark to mark to find its end, and
cuts the tag at its first `>` when a quote is open at the end of the source. Later the attributes are
read, with marks that are doubled in values, with names and with equals signs. Both come to the same:
when the attributes cannot be read, the quote that is reported is the one that is open at the end of
their text (`quoteAfter_eq_openMark`), and then the tag has been cut short. Only a value that stands
without quotes, and holds a mark, can set the two apart.

What is reported is where the quote begins, and one more mark at the end would have closed it.
-/

namespace TagTemplate

namespace Attributes

variable {cs rest value after left : List Char} {mark : Char}

/-! ## What each reader takes -/

/-- A quoted text that ends before the text does ends there with more behind it as well. -/
theorem readQuoted_append (h : readQuoted mark cs = some (value, after)) (hafter : after ≠ [])
    (more : List Char) : readQuoted mark (cs ++ more) = some (value, after ++ more) := by
  fun_induction readQuoted mark cs generalizing value with
  | case1 => cases h
  | case2 rest ih =>
    obtain ⟨⟨value', after'⟩, hread, hpair⟩ := Option.map_eq_some_iff.mp h
    cases hpair
    simp [readQuoted, ih hread]
  | case3 d rest hd =>
    cases h
    simp [readQuoted, hd]
  | case4 =>
    cases h
    exact absurd rfl hafter
  | case5 c rest hc ih =>
    obtain ⟨⟨value', after'⟩, hread, hpair⟩ := Option.map_eq_some_iff.mp h
    cases hpair
    rw [List.cons_append, readQuoted.eq_def]
    simp only [if_neg hc, ih hread, Option.map_some]

/-- A quote that never closes is open at the end, and one more mark closes it there. -/
theorem open_of_readQuoted (hmark : mark = '"' ∨ mark = '\'') (h : readQuoted mark cs = none) :
    quoteAfter (some mark) cs = some mark ∧
      ∃ value, readQuoted mark (cs ++ [mark]) = some (value, []) := by
  fun_induction readQuoted mark cs with
  | case1 => exact ⟨rfl, [], by simp [readQuoted]⟩
  | case2 rest ih =>
    obtain ⟨hopen, value, hread⟩ := ih (Option.map_eq_none_iff.mp h)
    refine ⟨?_, mark :: value, ?_⟩
    · rw [quoteAfter_doubled hmark, hopen]
    · simp [readQuoted, hread]
  | case3 => cases h
  | case4 => cases h
  | case5 c rest hc ih =>
    obtain ⟨hopen, value, hread⟩ := ih (Option.map_eq_none_iff.mp h)
    refine ⟨?_, c :: value, ?_⟩
    · rw [quoteAfter_kept hc, hopen]
    · rw [List.cons_append, readQuoted.eq_def]
      simp only [if_neg hc, hread, Option.map_some]

/-- The value after an equals sign, when it stands there without quotes. -/
def unquoted? : List Char → Option (List Char)
  | [] => none
  | c :: rest =>
    if c = '"' ∨ c = '\'' then none else some ((c :: rest).takeWhile (!Text.isBlank ·))

/-- The value that is assigned to a name, when it stands without quotes. -/
def unquotedValue? (cs : List Char) : Option (List Char) :=
  match Text.dropBlanks cs with
  | '=' :: rest => unquoted? (Text.dropBlanks rest)
  | _ => none

theorem isBlank_of_mark (hmark : mark = '"' ∨ mark = '\'') : Text.isBlank mark = false :=
  Bool.eq_false_iff.mpr fun h => not_mark_of_isBlank h hmark

/-- A value closes the quote that it opens. -/
theorem closed_of_readValue (h : readValue cs = .ok (value, after)) :
    ∃ front, cs = front ++ after ∧
      ((∀ v ∈ unquoted? cs, ∀ c ∈ v, ¬ (c = '"' ∨ c = '\'')) → quoteAfter none front = none) := by
  unfold readValue at h
  split at h
  · cases h
    exact ⟨[], rfl, fun _ => rfl⟩
  · next c rest =>
    split at h
    · next hc =>
      split at h
      · next hread =>
        cases h
        obtain ⟨inside, rfl, hclosed, -, -⟩ := quoteAfter_of_readQuoted hc hread
        refine ⟨c :: inside, rfl, fun _ => ?_⟩
        rw [quoteAfter_mark hc, hclosed]
      · cases h
    · next hc =>
      cases h
      refine ⟨_, List.takeWhile_append_dropWhile.symm, fun hplain => ?_⟩
      rw [unquoted?, if_neg hc] at hplain
      exact (quoteAfter_of_plain (hplain _ rfl)).1

/-- A value that ends before the text does ends there with more behind it as well. -/
theorem readValue_append (h : readValue cs = .ok (value, after)) (hafter : after ≠ [])
    (more : List Char) : readValue (cs ++ more) = .ok (value, after ++ more) := by
  unfold readValue at h
  split at h
  · cases h
    exact absurd rfl hafter
  · next c rest =>
    rw [List.cons_append, readValue]
    split at h
    · next hc =>
      split at h
      · next hread =>
        cases h
        rw [if_pos hc, readQuoted_append hread hafter]
      · cases h
    · next hc =>
      cases h
      -- the run of the value has ended in the text
      rw [if_neg hc, ← List.cons_append, List.takeWhile_append, List.dropWhile_append]
      have hrun : ((c :: rest).takeWhile (!Text.isBlank ·)).length ≠ (c :: rest).length := by
        intro hlen
        have hboth := congrArg List.length
          (List.takeWhile_append_dropWhile (p := (!Text.isBlank ·)) (l := c :: rest))
        rw [List.length_append, hlen] at hboth
        exact hafter (List.length_eq_zero_iff.mp (by omega))
      rw [if_neg hrun, if_neg (by simpa using hafter)]

/-- A value that cannot be read begins with a quote that never closes. -/
theorem open_of_readValue (h : readValue cs = .error (mark, left)) :
    cs = mark :: left ∧ (mark = '"' ∨ mark = '\'') ∧ readQuoted mark left = none := by
  unfold readValue at h
  split at h
  · cases h
  · split at h
    · next hc =>
      split at h
      · cases h
      · next hread =>
        cases h
        exact ⟨rfl, hc, hread⟩
    · cases h

/-- What is assigned closes the quotes that it opens. -/
theorem closed_of_readAssignment (h : readAssignment cs = .ok (value, after)) :
    ∃ front, cs = front ++ after ∧
      ((∀ v ∈ unquotedValue? cs, ∀ c ∈ v, ¬ (c = '"' ∨ c = '\'')) →
        quoteAfter none front = none) := by
  unfold readAssignment at h
  split at h
  · next rest hdrop =>
    obtain ⟨front, hfront, hclosed⟩ := closed_of_readValue h
    refine ⟨cs.takeWhile Text.isBlank ++ '=' :: (rest.takeWhile Text.isBlank ++ front), ?_,
      fun hplain => ?_⟩
    · rw [List.append_assoc, List.cons_append, List.append_assoc, ← hfront,
        Text.takeWhile_append_dropBlanks, ← hdrop, Text.takeWhile_append_dropBlanks]
    · have hblanks : ∀ ds : List Char, quoteAfter none (ds.takeWhile Text.isBlank) = none :=
        fun ds => (quoteAfter_of_plain fun c hc =>
          not_mark_of_isBlank (Text.isBlank_of_mem_takeWhile hc)).1
      rw [unquotedValue?, hdrop] at hplain
      rw [quoteAfter_append, hblanks]
      show quoteAfter none (rest.takeWhile Text.isBlank ++ front) = none
      rw [quoteAfter_append, hblanks, hclosed hplain]
  · cases h
    exact ⟨[], rfl, fun _ => rfl⟩

/-- An assignment that ends before the text does ends there with one more mark behind it as well. -/
theorem readAssignment_concat (hmark : mark = '"' ∨ mark = '\'')
    (h : readAssignment cs = .ok (value, after)) (hafter : after ≠ []) :
    readAssignment (cs ++ [mark]) = .ok (value, after ++ [mark]) := by
  have hblank := isBlank_of_mark hmark
  unfold readAssignment at h
  split at h
  · next rest hdrop =>
    rw [readAssignment, Text.dropBlanks_concat hblank, hdrop]
    show readValue (Text.dropBlanks (rest ++ [mark])) = _
    rw [Text.dropBlanks_concat hblank, readValue_append h hafter]
  · next hsign =>
    cases h
    apply readAssignment_flag
    rw [Text.dropBlanks_concat hblank]
    cases hdrop : Text.dropBlanks cs with
    | nil =>
      rintro ⟨⟩
      exact absurd hmark (by decide)
    | cons c rest =>
      rintro ⟨⟩
      exact hsign rest hdrop

/-- An assignment that cannot be read has a quote that never closes as its value, and one more mark
closes it. -/
theorem open_of_readAssignment (h : readAssignment cs = .error (mark, left)) :
    ∃ front, cs = front ++ mark :: left ∧ (∀ c ∈ front, ¬ (c = '"' ∨ c = '\'')) ∧
      (mark = '"' ∨ mark = '\'') ∧ quoteAfter (some mark) left = some mark ∧
      ∃ value, readAssignment (cs ++ [mark]) = .ok (value, []) := by
  unfold readAssignment at h
  split at h
  · next rest hdrop =>
    obtain ⟨hvalue, hmark, hread⟩ := open_of_readValue h
    obtain ⟨hopen, value, hclose⟩ := open_of_readQuoted hmark hread
    refine ⟨cs.takeWhile Text.isBlank ++ '=' :: rest.takeWhile Text.isBlank, ?_, ?_, hmark, hopen,
      value, ?_⟩
    · rw [List.append_assoc, List.cons_append, ← hvalue, Text.takeWhile_append_dropBlanks, ← hdrop,
        Text.takeWhile_append_dropBlanks]
    · intro c hc
      rcases List.mem_append.mp hc with hc | hc
      · exact not_mark_of_isBlank (Text.isBlank_of_mem_takeWhile hc)
      · rcases List.mem_cons.mp hc with rfl | hc
        · decide
        · exact not_mark_of_isBlank (Text.isBlank_of_mem_takeWhile hc)
    · have hblank := isBlank_of_mark hmark
      rw [readAssignment, Text.dropBlanks_concat hblank, hdrop]
      show readValue (Text.dropBlanks (rest ++ [mark])) = _
      rw [Text.dropBlanks_concat hblank, hvalue, List.cons_append, readValue, if_pos hmark, hclose]
  · cases h

/-- The values without quotes that are read in an attribute text. -/
def unquotedValues (cs : List Char) : List (List Char) :=
  match cs with
  | [] => []
  | c :: rest =>
    if c = '"' ∨ c = '\'' then
      match _h : readQuoted c rest with
      | some (_, after) => unquotedValues after
      | none => []
    else if c.isAlpha then
      match _h : readAssignment (rest.dropWhile isNameChar) with
      | .ok (_, after) =>
        (unquotedValue? (rest.dropWhile isNameChar)).toList ++ unquotedValues after
      | .error _ => []
    else unquotedValues rest
termination_by cs.length
decreasing_by
  · have := length_lt_of_readQuoted _h
    simp only [List.length_cons]
    omega
  · have h1 := length_le_of_readAssignment _h
    have h2 := length_dropWhile_le isNameChar rest
    simp only [List.length_cons]
    omega
  · simp

/-- The mark of the quote that made a text unreadable. -/
def openMark? : Except AttributeError Attributes → Option Char
  | .ok _ => none
  | .error e => some e.mark

theorem not_mark_of_isNameChar {c : Char} (h : isNameChar c = true) : ¬ (c = '"' ∨ c = '\'') := by
  rintro (rfl | rfl)
  · exact absurd h (by decide)
  · exact absurd h (by decide)

theorem isNameChar_of_mark (hmark : mark = '"' ∨ mark = '\'') : isNameChar mark = false :=
  Bool.eq_false_iff.mpr fun h => not_mark_of_isNameChar h hmark

/-- A name opens no quote. -/
theorem quoteAfter_name {c : Char} (hc : ¬ (c = '"' ∨ c = '\'')) (rest : List Char) :
    quoteAfter none (c :: rest) = quoteAfter none (rest.dropWhile isNameChar) := by
  have hname : quoteAfter none (rest.takeWhile isNameChar) = none :=
    (quoteAfter_of_plain fun d hd => not_mark_of_isNameChar (List.mem_takeWhile_imp hd)).1
  rw [quoteAfter_other hc]
  conv_lhs => rw [← @List.takeWhile_append_dropWhile _ isNameChar rest, quoteAfter_append, hname]

/-- The quote that makes an attribute text unreadable is the one that is open at its end. -/
theorem quoteAfter_eq_openMark (map : Attributes) (size : Nat)
    (hplain : ∀ v ∈ unquotedValues cs, ∀ c ∈ v, ¬ (c = '"' ∨ c = '\'')) :
    quoteAfter none cs = openMark? (readInto map size cs) := by
  -- Step by step: outside of quotes each step ends where it began, unless a quote stays open.
  fun_induction unquotedValues cs generalizing map with
  | case1 =>
    rw [readInto]
    rfl
  | case2 c rest hc value after hread ih =>
    -- a quoted text is passed over, and its quote is closed
    obtain ⟨inside, rfl, hclosed, -, -⟩ := quoteAfter_of_readQuoted hc hread
    rw [readInto_quoted hc hread, ← ih map hplain, quoteAfter_mark hc, quoteAfter_append, hclosed]
  | case3 c rest hc hread =>
    rw [readInto_unclosed hc hread, quoteAfter_mark hc]
    exact (open_of_readQuoted hc hread).1
  | case4 c rest hc hletter value after hread ih =>
    rw [List.forall_mem_append] at hplain
    obtain ⟨front, hfront, hclosed⟩ := closed_of_readAssignment hread
    rw [readInto_assigned hletter hread, ← ih _ hplain.2, quoteAfter_name hc, hfront,
      quoteAfter_append, hclosed fun v hv => hplain.1 v (Option.mem_toList.mpr hv)]
  | case5 c rest hc hletter e hread =>
    obtain ⟨mark, left⟩ := e
    obtain ⟨front, hfront, hbefore, hmark, hopen, -⟩ := open_of_readAssignment hread
    rw [readInto_unassigned hletter hread, quoteAfter_name hc, hfront, quoteAfter_append,
      (quoteAfter_of_plain hbefore).1, quoteAfter_mark hmark]
    exact hopen
  | case6 c rest hc hletter ih =>
    rw [readInto_passed hc hletter, ← ih map hplain, quoteAfter_other hc]

/-! ## Where the open quote begins -/

/-- What is reported of a text that cannot be read, when so many characters have come up to its end:
a quote begins at the offset, and one more mark at the end closes it. -/
structure Reports (size : Nat) (cs : List Char) (e : AttributeError) : Prop where
  isMark : e.mark = '"' ∨ e.mark = '\''
  begins : ∃ left, e.mark :: left <:+ cs ∧ e.offset = size - (left.length + 1)
  closes : ∀ map size', ∃ map', readInto map size' (cs ++ [e.mark]) = .ok map'

/-- What is reported behind something that was read is reported of the whole. -/
theorem Reports.of_behind {size : Nat} {e : AttributeError} (h : Reports size after e)
    (hsuffix : after <:+ cs)
    (hread : ∀ map size', ∃ map',
      readInto map size' (cs ++ [e.mark]) = readInto map' size' (after ++ [e.mark])) :
    Reports size cs e where
  isMark := h.isMark
  begins := by
    obtain ⟨left, hleft, hoffset⟩ := h.begins
    exact ⟨left, hleft.trans hsuffix, hoffset⟩
  closes map size' := by
    obtain ⟨map', hmap⟩ := hread map size'
    rw [hmap]
    exact h.closes map' size'

/-- Where something is left that cannot be read, something is left. -/
theorem ne_nil_of_readInto {map : Attributes} {size : Nat} {e : AttributeError}
    (h : readInto map size cs = .error e) : cs ≠ [] := by
  rintro rfl
  rw [readInto] at h
  cases h

theorem suffix_of_readQuoted (hmark : mark = '"' ∨ mark = '\'')
    (h : readQuoted mark cs = some (value, after)) : after <:+ cs := by
  obtain ⟨inside, rfl, -⟩ := quoteAfter_of_readQuoted hmark h
  exact List.suffix_append inside after

/-- What is left behind a name, and further on, is left behind its first letter. -/
theorem suffix_of_name {c : Char} {front : List Char}
    (h : rest.dropWhile isNameChar = front ++ after) : after <:+ c :: rest := by
  have hbehind := List.suffix_append front after
  rw [← h] at hbehind
  exact (hbehind.trans (List.dropWhile_suffix _)).trans (List.suffix_cons c rest)

/-- A text that cannot be read is reported with a quote in it. -/
theorem reports_of_readInto {map : Attributes} {size : Nat} {e : AttributeError}
    (h : readInto map size cs = .error e) : Reports size cs e := by
  -- Step by step: what was read stays as it is with a mark at the end, until a quote stays open.
  fun_induction readInto map size cs with
  | case1 => cases h
  | case2 map c rest hc value after hread ih =>
    have hafter := ne_nil_of_readInto h
    refine (ih h).of_behind ((suffix_of_readQuoted hc hread).trans (List.suffix_cons c rest)) ?_
    intro map size'
    exact ⟨map, readInto_quoted hc (readQuoted_append hread hafter _) map size'⟩
  | case3 map c rest hc hread =>
    cases h
    obtain ⟨-, value, hclose⟩ := open_of_readQuoted hc hread
    refine ⟨hc, ⟨rest, List.suffix_refl _, rfl⟩, fun map size' => ⟨map, ?_⟩⟩
    rw [List.cons_append, readInto_quoted hc hclose, readInto]
  | case4 map c rest hc hletter value after hread name ih =>
    have hafter := ne_nil_of_readInto h
    have hmark := (ih h).isMark
    obtain ⟨front, hfront, -⟩ := closed_of_readAssignment hread
    have hvalue : readAssignment ((rest ++ [e.mark]).dropWhile isNameChar) =
        .ok (value, after ++ [e.mark]) := by
      rw [Text.dropWhile_concat (isNameChar_of_mark hmark)]
      exact readAssignment_concat hmark hread hafter
    exact (ih h).of_behind (suffix_of_name hfront) fun map size' =>
      ⟨_, readInto_assigned hletter hvalue map size'⟩
  | case5 map c rest hc hletter mark left hread =>
    cases h
    obtain ⟨front, hfront, -, hmark, -, value, hclose⟩ := open_of_readAssignment hread
    rw [← Text.dropWhile_concat (isNameChar_of_mark hmark)] at hclose
    refine ⟨hmark, ⟨left, suffix_of_name hfront, rfl⟩, fun map size' => ?_⟩
    rw [List.cons_append, readInto_assigned hletter hclose, readInto]
    exact ⟨_, rfl⟩
  | case6 map c rest hc hletter ih =>
    refine (ih h).of_behind (List.suffix_cons c rest) fun map size' => ⟨map, ?_⟩
    exact readInto_passed hc hletter map size' _

/-- A text that cannot be read: at the offset that is reported a quote begins, and the text can be
read with one more mark at its end. -/
theorem parse_concat {text : String} {e : AttributeError} (h : parse text = .error e) :
    text.toList[e.offset]? = some e.mark ∧ (e.mark = '"' ∨ e.mark = '\'') ∧
      ∃ map, parse (text ++ String.singleton e.mark) = .ok map := by
  have hreports := reports_of_readInto h
  refine ⟨?_, hreports.isMark, ?_⟩
  · obtain ⟨left, ⟨front, hfront⟩, hoffset⟩ := hreports.begins
    have hfrontLength : e.offset = front.length := by
      rw [hoffset, ← hfront, List.length_append, List.length_cons]
      omega
    rw [hfrontLength, ← hfront, List.getElem?_append_right (Nat.le_refl _), Nat.sub_self]
    rfl
  · rw [parse, String.toList_append, String.toList_singleton]
    exact hreports.closes .empty _

end Attributes

/-! ## The attribute text of a tag -/

/-- A text without marks changes nothing, in quotes and outside of them. -/
theorem quoteAfter_append_plain {front back : List Char}
    (hback : ∀ c ∈ back, ¬ (c = '"' ∨ c = '\'')) :
    quoteAfter none (front ++ back) = quoteAfter none front := by
  rw [quoteAfter_append]
  cases hopen : quoteAfter none front with
  | none => exact (quoteAfter_of_plain hback).1
  | some mark =>
    have hnot : mark ∉ back := by
      intro hmem
      exact hback mark hmem (isMark_of_quoteAfter (by rintro _ ⟨⟩) hopen)
    exact (quoteAfter_inside hnot).1

/-- The characters of a tag name are no marks. -/
theorem quoteAfter_tagName (inside : List Char) : quoteAfter none (tagName inside) = none := by
  refine (quoteAfter_of_plain fun c hc => ?_).1
  have hname : isTagNameChar c = true := List.mem_takeWhile_imp hc
  rintro (rfl | rfl)
  · exact absurd hname (by decide +kernel)
  · exact absurd hname (by decide +kernel)

/-- The quote that is open at the end of a tag is open at the end of its attribute text: no mark is
lost with the name, the blanks and the slash. -/
theorem quoteAfter_attributes {inside : List Char} {name raw : String} {selfClosing : Bool}
    (h : Token.Kind.ofTag inside = .tagOpen name raw selfClosing) :
    quoteAfter none raw.toList = quoteAfter none inside := by
  have hblank : ∀ cs : List Char, (∀ c ∈ cs, Text.isBlank c = true) →
      ∀ c ∈ cs, ¬ (c = '"' ∨ c = '\'') :=
    fun cs hcs c hc => not_mark_of_isBlank (hcs c hc)
  have hname : inside = tagName inside ++ inside.drop (tagName inside).length := by
    have hprefix : tagName inside <+: inside := List.takeWhile_prefix _
    exact (List.prefix_iff_eq_append.mp hprefix).symm
  obtain ⟨front, back, hfront, hback, htrim⟩ :=
    Text.trimChars_split (inside.drop (tagName inside).length)
  have htrimmed : quoteAfter none (Text.trimChars (inside.drop (tagName inside).length)) =
      quoteAfter none inside := by
    conv_rhs => rw [hname, quoteAfter_append, quoteAfter_tagName, htrim, quoteAfter_append,
      (quoteAfter_of_plain (hblank front hfront)).1, quoteAfter_append_plain (hblank back hback)]
  rw [← htrimmed]
  unfold Token.Kind.ofTag at h
  split at h
  · cases h
  · simp only at h
    split at h
    · next hslash =>
      -- the slash goes, and the blanks in front of it
      cases h
      obtain ⟨before, hbefore⟩ := List.getLast?_eq_some_iff.mp hslash
      obtain ⟨gap, hgap, hsplit⟩ := Text.dropTrailingBlanks_split before
      rw [String.toList_ofList, hbefore, List.dropLast_concat,
        quoteAfter_append_plain (List.forall_mem_singleton.mpr (by decide))]
      conv_rhs => rw [hsplit, quoteAfter_append_plain (hblank gap hgap)]
    · cases h
      rw [String.toList_ofList]

/-! ## The tags of a source -/

namespace Scanner

/-- A token that is no text is the markup at some place in the source. -/
theorem markup_of_mem_itemsAt {source rest : List Char} {pos : Position} {t : Token}
    (hat : At source pos rest) (h : .ok t ∈ itemsAt rest pos) (htext : ∀ s, t.kind ≠ .text s) :
    ∃ pos' rest' markup, At source pos' rest' ∧ AtMarkup rest' (some markup) ∧
      (itemsFromMarkup pos' (some markup)).head? = some (.ok t) := by
  -- By rounds: what is left after a round is shorter.
  induction hn : rest.length using Nat.strongRecOn generalizing rest pos with
  | ind n ih =>
    subst hn
    rcases hr : textRun [] pos rest pos with p | run
    · rw [itemsAt_of_error hr, List.mem_singleton] at h
      cases h
    rw [itemsAt_eq_round hr, List.mem_append] at h
    obtain ⟨-, -, hstop, -⟩ := textPart_of_textRun hat hr
    rcases h with h | h
    · obtain ⟨u, hu, heq⟩ := List.mem_map.mp h
      cases heq
      rw [TextRun.tokens] at hu
      split at hu
      · cases hu
      · rw [List.mem_singleton.mp hu] at htext
        exact absurd rfl (htext _)
    have hmark := atMarkup_of_textRun hr
    rcases hm : run.markup with _ | markup <;> rw [hm] at h hmark
    · cases h
    rcases itemsFromMarkup_cases run.stop hmark with
      he | ⟨kind, lexeme, after, hrest, hne, -, hitems⟩
    · rw [he, List.mem_singleton] at h
      cases h
    · rw [hitems, List.mem_cons] at h
      rcases h with h | h
      · refine ⟨run.stop, run.rest, markup, hstop, hmark, ?_⟩
        rw [hitems, h]
        rfl
      · have hshort := length_lt_of_round hr hrest hne
        rw [hrest] at hstop
        exact ih _ hshort hstop.advance h rfl

/-- An opening tag is made of what stands behind its `<`, up to the `>` that closes it. -/
theorem tag_of_mem_items {source : String} {t : Token} (h : .ok t ∈ (ofSource source).items)
    {name raw : String} {selfClosing : Bool} (hkind : t.kind = .tagOpen name raw selfClosing) :
    ∃ inside, Token.Kind.ofTag inside = .tagOpen name raw selfClosing ∧
      closeTag (source.toList.drop (t.span.start + 1)) =
        some (inside, source.toList.drop t.span.stop) := by
  have hitems : (ofSource source).items = itemsAt source.toList .start := items_eq_itemsAt rfl
  rw [hitems] at h
  have htext : ∀ s, t.kind ≠ .text s := by
    intro s hs
    rw [hkind] at hs
    cases hs
  obtain ⟨pos, rest, markup, hat, hmark, hhead⟩ := markup_of_mem_itemsAt (.start _) h htext
  obtain ⟨c, inner, rfl, hlead⟩ := hmark
  have hbegins := eq_of_lead_markup hlead
  rcases markup with ⟨afterMark⟩ | ⟨expression, after⟩
  · obtain ⟨rfl, rfl⟩ := hbegins
    rw [itemsFromMarkup] at hhead
    cases hclose : closeTag inner with
    | none =>
      rw [hclose] at hhead
      cases hhead
    | some split =>
      obtain ⟨inside, after⟩ := split
      rw [hclose] at hhead
      cases hhead
      refine ⟨inside, hkind, ?_⟩
      have hlexeme : At source.toList pos ('<' :: inside ++ ['>'] ++ after) := by
        rw [← closeTag_append hclose] at hat
        simpa using hat
      have hinner : source.toList.drop (pos.offset + 1) = inner := by
        rw [← List.drop_drop, hat.drop_offset]
        rfl
      show closeTag (source.toList.drop (pos.offset + 1)) =
        some (inside, source.toList.drop (pos.advance ('<' :: inside ++ ['>'])).offset)
      rw [hinner, hlexeme.advance.drop_offset, hclose]
  · rw [itemsFromMarkup] at hhead
    cases hhead
    cases hkind

end Scanner

/-- The end of a tag was looked for in vain: a quote is still open at the end of the source, and so
the tag ends at its first `>`. -/
structure Token.CutShort (source : List Char) (t : Token) : Prop where
  unclosed : closeTagOutsideQuotes none (source.drop (t.span.start + 1)) = .error true
  cut : ∃ inside,
    closeTagAnywhere (source.drop (t.span.start + 1)) = some (inside, source.drop t.span.stop)

/-- A tag whose end was looked for in vain has a quote open where it is cut, and no other has. -/
theorem closeTag_fallback_iff {afterMark inside after : List Char}
    (h : closeTag afterMark = some (inside, after)) :
    quoteAfter none inside ≠ none ↔
      closeTagOutsideQuotes none afterMark = .error true ∧
        closeTagAnywhere afterMark = some (inside, after) := by
  have happend := closeTag_append h
  rw [closeTag] at h
  cases hend : closeTagOutsideQuotes none afterMark with
  | ok split =>
    rw [hend] at h
    cases h
    refine iff_of_false (fun hopen => hopen (closed_of_closeTagOutsideQuotes hend).1) ?_
    rintro ⟨⟨⟩, -⟩
  | error isOpen =>
    rw [hend] at h
    cases isOpen with
    | false => cases h
    | true =>
      refine iff_of_true (fun hclosed => ?_) ⟨rfl, h⟩
      -- the `>` where the tag is cut would have ended it
      have hhidden := gt_not_mem_of_closeTagOutsideQuotes hend
      rw [← happend, outsideQuotes_append, hclosed] at hhidden
      exact hhidden (List.mem_append_right _ List.mem_cons_self)

/-- Both readers agree on quotes that never close. The attributes of an opening tag in which no value
without quotes holds a mark can be read unless the tag was cut short, and only then. Where a text
cannot be read, a quote begins, and the text can be read with its mark at the end. -/
theorem readers_agree_on_quotes (source text : String) :
    (∀ t name raw selfClosing, .ok t ∈ (Scanner.ofSource source).items →
      t.kind = .tagOpen name raw selfClosing →
      (∀ v ∈ Attributes.unquotedValues raw.toList, ∀ c ∈ v, ¬ (c = '"' ∨ c = '\'')) →
        ((∃ e, Attributes.parse raw = .error e) ↔ t.CutShort source.toList)) ∧
    ∀ e, Attributes.parse text = .error e →
      text.toList[e.offset]? = some e.mark ∧ (e.mark = '"' ∨ e.mark = '\'') ∧
        ∃ map, Attributes.parse (text ++ String.singleton e.mark) = .ok map := by
  refine ⟨?_, fun e => Attributes.parse_concat⟩
  intro t name raw selfClosing hmem hkind hplain
  obtain ⟨inside, hinside, hclose⟩ := Scanner.tag_of_mem_items hmem hkind
  have hquote := Attributes.quoteAfter_eq_openMark .empty raw.toList.length hplain
  have hcut : quoteAfter none inside ≠ none ↔ t.CutShort source.toList := by
    rw [closeTag_fallback_iff hclose]
    constructor
    · rintro ⟨hunclosed, hanywhere⟩
      exact ⟨hunclosed, inside, hanywhere⟩
    · rintro ⟨hunclosed, inside', hanywhere⟩
      rw [closeTag, hunclosed] at hclose
      exact ⟨hunclosed, hclose⟩
  rw [← hcut, ← quoteAfter_attributes hinside, hquote]
  show _ ↔ Attributes.openMark? (Attributes.parse raw) ≠ none
  cases Attributes.parse raw with
  | ok map =>
    refine iff_of_false ?_ fun h => h rfl
    rintro ⟨e, he⟩
    cases he
  | error e => exact iff_of_true ⟨e, rfl⟩ (Option.some_ne_none e.mark)

/-- A mark in a value without quotes sets the readers apart: it opens a quote for the scanner only. -/
example : closeTagOutsideQuotes none "a b=x\"y>".toList = .error true ∧
    Attributes.unquotedValues "b=x\"y".toList = ["x\"y".toList] ∧
    (Attributes.parse "b=x\"y").isOk = true := by
  decide +kernel

/-- A tag with an open quote is cut at its first `>`. Its attributes can be read with the mark that
they lack. -/
theorem readers_agree_on_cut_tag :
    .ok ⟨.tagOpen "cfset" "a=\"x" false, ⟨0, 12, 1, 1⟩, "<cfset a=\"x>"⟩ ∈
        (Scanner.ofSource "<cfset a=\"x>").items ∧
      Token.CutShort "<cfset a=\"x>".toList
        ⟨.tagOpen "cfset" "a=\"x" false, ⟨0, 12, 1, 1⟩, "<cfset a=\"x>"⟩ ∧
      Attributes.parse "a=\"x" = .error ⟨'"', 2⟩ ∧ "a=\"x".toList[2]? = some '"' ∧
      ∃ map, Attributes.parse "a=\"x\"" = .ok map := by
  have hitems : (Scanner.ofSource "<cfset a=\"x>").items =
      [.ok ⟨.tagOpen "cfset" "a=\"x" false, ⟨0, 12, 1, 1⟩, "<cfset a=\"x>"⟩] := by
    decide +kernel
  have hmem := hitems ▸ List.mem_singleton_self _
  have hparse : Attributes.parse "a=\"x" = .error ⟨'"', 2⟩ := by decide +kernel
  have hplain : ∀ v ∈ Attributes.unquotedValues "a=\"x".toList, ∀ c ∈ v,
      ¬ (c = '"' ∨ c = '\'') := by decide +kernel
  obtain ⟨hscan, hread⟩ := readers_agree_on_quotes "<cfset a=\"x>" "a=\"x"
  obtain ⟨hmark, -, hclosed⟩ := hread _ hparse
  exact ⟨hmem, (hscan _ _ _ _ hmem rfl hplain).mp ⟨_, hparse⟩, hparse, hmark, hclosed⟩

end TagTemplate
