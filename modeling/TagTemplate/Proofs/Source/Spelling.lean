import TagTemplate.Proofs.Names.Bindings
import TagTemplate.Proofs.Source.Quotes

/-!
# Opening tags as they may be written

There are many ways to write one opening tag. An attribute is a name by itself, or a name with a
value in quotes of either kind, in which the mark of the quotes is doubled; blanks stand in front of
each attribute, and may stand around its equals sign; and a slash may stand at the end, with blanks
in front of it. However the tag is written, it is one token that ends at its own `>`, and its
attributes are read as they were meant (`SpelledTag.next_eq`): nothing in a value ends the value or
the tag.
-/

namespace TagTemplate

open Attributes

/-! ## Ways to write a tag -/

/-- A value as it may be written behind the name of an attribute: the blanks around the equals sign,
the mark of the quotes, and the text between them before its marks are doubled. -/
structure SpelledValue where
  before : List Char
  after : List Char
  mark : Char
  text : String
  blank_before : ∀ c ∈ before, Text.isBlank c = true
  blank_after : ∀ c ∈ after, Text.isBlank c = true
  isMark : mark = '"' ∨ mark = '\''

/-- An attribute as it may be written: the blanks in front of it, its name, and its value if it is
no flag. -/
structure SpelledAttribute where
  gap : List Char
  name : String
  value? : Option SpelledValue
  gap_ne_nil : gap ≠ []
  blank_gap : ∀ c ∈ gap, Text.isBlank c = true
  letter : name.toList.head?.any Char.isAlpha = true
  chars_name : ∀ c ∈ name.toList, isNameChar c = true

/-- An opening tag as it may be written: its name, its attributes, and the blanks in front of a
slash at the end if there is one. -/
structure SpelledTag where
  name : String
  attributes : List SpelledAttribute
  slash? : Option (List Char)
  isName : IsWrittenName name
  slash_ne_nil : slash? ≠ some []
  blank_slash : ∀ gap ∈ slash?, ∀ c ∈ gap, Text.isBlank c = true

/-- The characters of a value, from the blanks in front of the equals sign on. -/
def SpelledValue.chars (v : SpelledValue) : List Char :=
  v.before ++ '=' :: (v.after ++ v.mark :: (doubledBy v.mark v.text.toList ++ [v.mark]))

namespace SpelledAttribute

/-- The characters of an attribute, with the blanks in front of it. -/
def chars (a : SpelledAttribute) : List Char :=
  a.gap ++ (a.name.toList ++ (a.value?.map SpelledValue.chars).getD [])

/-- What the attribute means: a flag has the empty value. -/
def value (a : SpelledAttribute) : String := (a.value?.map SpelledValue.text).getD ""

/-- The name and the value of an attribute. -/
def pair (a : SpelledAttribute) : String × String := (a.name, a.value)

end SpelledAttribute

namespace SpelledTag

/-- The characters of the attributes of a tag. -/
def attributeChars (tag : SpelledTag) : List Char := tag.attributes.flatMap SpelledAttribute.chars

/-- The slash at the end, with the blanks in front of it. -/
def slashChars (tag : SpelledTag) : List Char := (tag.slash?.map (· ++ ['/'])).getD []

/-- What stands between `<` and `>`. -/
def inside (tag : SpelledTag) : List Char :=
  tag.name.toList ++ (tag.attributeChars ++ tag.slashChars)

/-- The characters of a tag. -/
def chars (tag : SpelledTag) : List Char := '<' :: tag.inside ++ ['>']

/-- The source of a tag. -/
def source (tag : SpelledTag) : String := String.ofList tag.chars

end SpelledTag

/-! ## Where blanks cannot stand -/

theorem isNameChar_of_isBlank {c : Char} (h : Text.isBlank c = true) : isNameChar c = false :=
  Text.eq_false_of_isBlank (by decide) h

theorem isTagNameChar_of_isBlank {c : Char} (h : Text.isBlank c = true) :
    isTagNameChar c = false :=
  Text.eq_false_of_isBlank (by decide +kernel) h

theorem isBlank_of_isNameChar {c : Char} (h : isNameChar c = true) : Text.isBlank c = false := by
  refine Bool.eq_false_iff.mpr fun hblank => ?_
  rw [isNameChar_of_isBlank hblank] at h
  cases h

theorem hidden_of_isBlank {cs : List Char} (h : ∀ c ∈ cs, Text.isBlank c = true) : Hidden cs :=
  hidden_of_plain fun c hc =>
    ⟨Text.ne_of_isBlank (h c hc) rfl, Text.ne_of_isBlank (h c hc) rfl,
      Text.ne_of_isBlank (h c hc) rfl⟩

theorem hidden_of_isNameChar {cs : List Char} (h : ∀ c ∈ cs, isNameChar c = true) : Hidden cs := by
  apply hidden_of_plain
  intro c hc
  refine ⟨?_, ?_, ?_⟩ <;> (rintro rfl; exact absurd (h _ hc) (by decide))

/-! ## Where the tag ends -/

theorem SpelledValue.hidden (v : SpelledValue) : Hidden v.chars := by
  have hsign : Hidden ['='] := hidden_of_plain (List.forall_mem_singleton.mpr (by decide))
  have hquoted := (hidden_of_isBlank v.blank_after).append (hidden_quoted v.isMark v.text.toList)
  exact (hidden_of_isBlank v.blank_before).append (hsign.append hquoted)

theorem SpelledAttribute.hidden (a : SpelledAttribute) : Hidden a.chars := by
  have hvalue : Hidden ((a.value?.map SpelledValue.chars).getD []) := by
    cases a.value? with
    | none => exact hidden_of_plain nofun
    | some v => exact v.hidden
  exact (hidden_of_isBlank a.blank_gap).append ((hidden_of_isNameChar a.chars_name).append hvalue)

theorem hidden_attributes (attributes : List SpelledAttribute) :
    Hidden (attributes.flatMap SpelledAttribute.chars) := by
  induction attributes with
  | nil => exact hidden_of_plain nofun
  | cons a rest ih => exact a.hidden.append ih

theorem SpelledTag.hidden (tag : SpelledTag) : Hidden tag.inside := by
  have hslash : Hidden tag.slashChars := by
    unfold slashChars
    cases hslash : tag.slash? with
    | none => exact hidden_of_plain nofun
    | some gap =>
      have hend : Hidden ['/'] := hidden_of_plain (List.forall_mem_singleton.mpr (by decide))
      exact (hidden_of_isBlank (tag.blank_slash gap hslash)).append hend
  exact tag.isName.hidden.append ((hidden_attributes tag.attributes).append hslash)

/-! ## What the attributes are read as -/

/-- What may follow an attribute: nothing or blanks, and no equals sign behind them. -/
structure FollowsAttribute (rest : List Char) : Prop where
  blank : ∀ c ∈ rest.head?, Text.isBlank c = true
  noSign : (Text.dropBlanks rest).head? ≠ some '='

namespace SpelledAttribute

theorem name_eq (a : SpelledAttribute) :
    ∃ c cs, a.name.toList = c :: cs ∧ c.isAlpha = true ∧ ∀ d ∈ cs, isNameChar d = true := by
  have hletter := a.letter
  have hchars := a.chars_name
  cases hname : a.name.toList with
  | nil =>
    rw [hname] at hletter
    cases hletter
  | cons c cs =>
    rw [hname] at hletter hchars
    exact ⟨c, cs, rfl, hletter, fun d hd => hchars d (List.mem_cons_of_mem c hd)⟩

/-- An attribute begins with blanks, and its name comes behind them. -/
theorem follows (a : SpelledAttribute) (rest : List Char) : FollowsAttribute (a.chars ++ rest) := by
  obtain ⟨c, cs, hname, hletter, -⟩ := a.name_eq
  obtain ⟨d, ds, hgap⟩ := List.exists_cons_of_ne_nil a.gap_ne_nil
  have hc : Text.isBlank c = false :=
    isBlank_of_isNameChar (a.chars_name c (by rw [hname]; exact List.mem_cons_self))
  constructor
  · rw [chars, hgap]
    rintro _ ⟨⟩
    exact a.blank_gap d (by rw [hgap]; exact List.mem_cons_self)
  · rw [chars, List.append_assoc, Text.dropBlanks_append a.blank_gap, hname]
    show (Text.dropBlanks (c :: _)).head? ≠ some '='
    rw [Text.dropBlanks_cons hc]
    rintro ⟨⟩
    exact absurd hletter (by decide)

/-- What stands behind the name of an attribute is read as its value. -/
theorem readAssignment_eq (a : SpelledAttribute) {rest : List Char} (h : FollowsAttribute rest) :
    readAssignment ((a.value?.map SpelledValue.chars).getD [] ++ rest) =
      .ok (a.value.toList, rest) := by
  rw [value]
  cases a.value? with
  | none => exact readAssignment_flag h.noSign
  | some v =>
    have hquote : rest.head? ≠ some v.mark := by
      intro hhead
      have hblank := h.blank v.mark hhead
      rcases v.isMark with hmark | hmark
      · rw [hmark] at hblank
        cases hblank
      · rw [hmark] at hblank
        cases hblank
    have hread := readAssignment_quoted v.isMark v.blank_before v.blank_after v.text.toList hquote
    show readAssignment (v.chars ++ rest) = .ok (v.text.toList, rest)
    rw [SpelledValue.chars]
    simpa only [List.append_assoc, List.cons_append, List.nil_append] using hread

/-- Behind its name an attribute goes on with no character of a name. -/
theorem ends_name (a : SpelledAttribute) {rest : List Char} (h : FollowsAttribute rest) :
    ∀ c ∈ ((a.value?.map SpelledValue.chars).getD [] ++ rest).head?, isNameChar c = false := by
  cases a.value? with
  | none => exact fun c hc => isNameChar_of_isBlank (h.blank c hc)
  | some v =>
    show ∀ c ∈ (v.chars ++ rest).head?, isNameChar c = false
    rw [SpelledValue.chars]
    cases hbefore : v.before with
    | nil =>
      rintro _ ⟨⟩
      rfl
    | cons d ds =>
      rintro _ ⟨⟩
      exact isNameChar_of_isBlank (v.blank_before d (by rw [hbefore]; exact List.mem_cons_self))

end SpelledAttribute

/-- Blanks between attributes are passed over. -/
theorem readInto_blanks {blanks : List Char} (h : ∀ c ∈ blanks, Text.isBlank c = true)
    (map : Attributes) (size : Nat) (cs : List Char) :
    readInto map size (blanks ++ cs) = readInto map size cs := by
  induction blanks with
  | nil => rfl
  | cons c blanks ih =>
    obtain ⟨hc, hblanks⟩ := List.forall_mem_cons.mp h
    have hquote : ¬ (c = '"' ∨ c = '\'') := not_mark_of_isBlank hc
    have hletter : ¬ c.isAlpha = true := by
      intro hletter
      have hname := isNameChar_of_isBlank hc
      simp [isNameChar, Char.isAlphanum, hletter] at hname
    rw [List.cons_append, readInto_passed hquote hletter, ih hblanks]

theorem readInto_dropBlanks (map : Attributes) (size : Nat) (cs : List Char) :
    readInto map size (Text.dropBlanks cs) = readInto map size cs := by
  have hfront : ∀ c ∈ cs.takeWhile Text.isBlank, Text.isBlank c = true :=
    fun c hc => Text.isBlank_of_mem_takeWhile hc
  conv_rhs => rw [← Text.takeWhile_append_dropBlanks cs]
  exact (readInto_blanks hfront map size _).symm

/-- An attribute is read, and the reading goes on behind it. -/
theorem SpelledAttribute.readInto_append (a : SpelledAttribute) {rest : List Char}
    (h : FollowsAttribute rest) (map : Attributes) (size : Nat) :
    readInto map size (a.chars ++ rest) = readInto (map.insert a.name a.value) size rest := by
  obtain ⟨c, cs, hname, hletter, hcs⟩ := a.name_eq
  rw [chars, List.append_assoc, readInto_blanks a.blank_gap, List.append_assoc, hname,
    List.cons_append, readInto_name hletter hcs (a.ends_name h) (a.readAssignment_eq h), ← hname,
    String.ofList_toList, String.ofList_toList]

/-- So are all attributes of a tag. -/
theorem readInto_attributes (attributes : List SpelledAttribute) (map : Attributes) (size : Nat) :
    readInto map size (attributes.flatMap SpelledAttribute.chars) =
      .ok ((attributes.map SpelledAttribute.pair).foldl (fun m p => m.insert p.1 p.2) map) := by
  induction attributes generalizing map with
  | nil => exact readInto.eq_def ..
  | cons a attributes ih =>
    have hfollows : FollowsAttribute (attributes.flatMap SpelledAttribute.chars) := by
      cases attributes with
      | nil => exact ⟨nofun, nofun⟩
      | cons next rest => exact next.follows _
    rw [List.flatMap_cons, a.readInto_append hfollows, ih]
    rfl

/-! ## The attribute text -/

/-- An attribute ends in a character of its name or in a mark. -/
theorem SpelledAttribute.getLast?_chars (a : SpelledAttribute) :
    ∀ c ∈ a.chars.getLast?, Text.isBlank c = false ∧ c ≠ '/' := by
  intro c hc
  rw [chars, List.getLast?_append, List.getLast?_append] at hc
  cases hvalue : a.value? with
  | none =>
    obtain ⟨d, cs, hname, -, -⟩ := a.name_eq
    rw [hvalue, hname, List.getLast?_cons] at hc
    have hmem : c ∈ a.name.toList := by
      rw [hname]
      cases hc
      exact List.mem_of_getLast? (List.getLast?_cons ..)
    have hchar := a.chars_name c hmem
    refine ⟨isBlank_of_isNameChar hchar, ?_⟩
    rintro rfl
    exact absurd hchar (by decide)
  | some v =>
    have hlast : v.chars.getLast? = some v.mark := by
      rw [SpelledValue.chars]
      simp [List.getLast?_append, List.getLast?_cons]
    rw [hvalue] at hc
    simp only [Option.map_some, Option.getD_some, hlast, Option.some_or, Option.mem_some_iff] at hc
    subst hc
    rcases v.isMark with hmark | hmark
    · rw [hmark]
      decide
    · rw [hmark]
      decide

theorem getLast?_attributes (attributes : List SpelledAttribute) :
    ∀ c ∈ (attributes.flatMap SpelledAttribute.chars).getLast?,
      Text.isBlank c = false ∧ c ≠ '/' := by
  induction attributes with
  | nil => exact nofun
  | cons a attributes ih =>
    intro c hc
    rw [List.flatMap_cons, List.getLast?_append] at hc
    cases hlast : (attributes.flatMap SpelledAttribute.chars).getLast? with
    | none =>
      rw [hlast] at hc
      exact a.getLast?_chars c hc
    | some d =>
      rw [hlast] at hc
      cases hc
      exact ih c hlast

/-- Trimming stops at a slash at the end. When the slash is taken off, the blanks in front of it go as
well. -/
theorem trimChars_slash {cs gap : List Char}
    (hlast : ∀ c ∈ cs.getLast?, Text.isBlank c = false)
    (hgap : ∀ c ∈ gap, Text.isBlank c = true) :
    ∃ front, Text.trimChars (cs ++ (gap ++ ['/'])) = front ++ ['/'] ∧
      Text.dropTrailingBlanks front = Text.dropBlanks cs := by
  have hslash : ∀ c ∈ (cs ++ (gap ++ ['/'])).getLast?, Text.isBlank c = false := by
    rw [← List.append_assoc, List.getLast?_concat]
    rintro _ ⟨⟩
    rfl
  rw [Text.trimChars_eq hslash]
  have hsplit : ∀ ds, Text.dropBlanks (cs ++ ds) =
      if (Text.dropBlanks cs).isEmpty = true then Text.dropBlanks ds else Text.dropBlanks cs ++ ds :=
    fun ds => List.dropWhile_append
  by_cases hempty : (Text.dropBlanks cs).isEmpty = true
  · refine ⟨[], ?_, (List.isEmpty_iff.mp hempty).symm⟩
    rw [hsplit, if_pos hempty]
    exact Text.dropBlanks_append hgap ['/']
  · refine ⟨Text.dropBlanks cs ++ gap, ?_, ?_⟩
    · rw [hsplit, if_neg hempty, List.append_assoc]
    · rw [Text.dropTrailingBlanks_append hgap]
      exact Text.dropTrailingBlanks_eq fun c hc => hlast c (Text.mem_getLast?_of_dropBlanks hc)

/-- A tag that is hidden up to its end is the first token of a source that begins with it. -/
theorem Scanner.next_tag {source : String} {inside after : List Char}
    (hsource : source.toList = '<' :: (inside ++ '>' :: after)) (hhidden : Hidden inside)
    (hopens : opensTag (inside ++ '>' :: after) = true) :
    (ofSource source).next = take (.ofTag inside) ('<' :: inside ++ ['>']) after .start := by
  have hmarkup : AtMarkup (ofSource source).rest (some (.tag (inside ++ '>' :: after))) := by
    rw [ofSource, hsource]
    exact atMarkup_tag hopens
  rw [next_of_atMarkup rfl hmarkup, readMarkup, closeTag_of_hidden hhidden]
  rfl

namespace SpelledTag

variable (tag : SpelledTag)

/-- Behind the name of a tag there are blanks, or the tag ends. -/
theorem ends_name : (tag.attributeChars ++ tag.slashChars).head?.any isTagNameChar = false := by
  have hblank : ∀ c ∈ (tag.attributeChars ++ tag.slashChars).head?, Text.isBlank c = true := by
    unfold attributeChars slashChars
    cases tag.attributes with
    | cons a attributes =>
      rw [List.flatMap_cons, List.append_assoc]
      exact (a.follows _).blank
    | nil =>
      cases hslash : tag.slash? with
      | none => exact nofun
      | some gap =>
        have hne : gap ≠ [] := fun hnil => tag.slash_ne_nil (hnil ▸ hslash)
        obtain ⟨d, ds, rfl⟩ := List.exists_cons_of_ne_nil hne
        rintro _ ⟨⟩
        exact tag.blank_slash _ hslash d List.mem_cons_self
  cases hhead : (tag.attributeChars ++ tag.slashChars).head? with
  | none => rfl
  | some c => exact isTagNameChar_of_isBlank (hblank c hhead)

/-- What stands in a tag makes an opening tag, with the attributes as they stand there. -/
theorem ofTag_inside :
    Token.Kind.ofTag tag.inside =
      .tagOpen (Text.foldAscii tag.name) (String.ofList (Text.dropBlanks tag.attributeChars))
        tag.slash?.isSome := by
  have hlast : ∀ c ∈ tag.attributeChars.getLast?, Text.isBlank c = false ∧ c ≠ '/' :=
    getLast?_attributes tag.attributes
  rw [inside, tag.isName.ofTag_append tag.ends_name]
  unfold slashChars
  cases hslash : tag.slash? with
  | none =>
    have htrim : Text.trimChars tag.attributeChars = Text.dropBlanks tag.attributeChars :=
      Text.trimChars_eq fun c hc => (hlast c hc).1
    have hend : (Text.dropBlanks tag.attributeChars).getLast? ≠ some '/' := fun hend =>
      (hlast '/' (Text.mem_getLast?_of_dropBlanks hend)).2 rfl
    rw [Option.map_none, Option.getD_none, List.append_nil, htrim, if_neg hend, Option.isSome_none]
  | some gap =>
    obtain ⟨front, htrim, hfront⟩ :=
      trimChars_slash (fun c hc => (hlast c hc).1) (tag.blank_slash gap hslash)
    rw [Option.map_some, Option.getD_some, htrim, List.getLast?_concat, if_pos rfl,
      List.dropLast_concat, hfront, Option.isSome_some]

/-! ## The token -/

theorem opensTag_inside (rest : List Char) : opensTag (tag.inside ++ rest) = true := by
  rw [inside, List.append_assoc]
  exact opensTag_append tag.isName _

/-- However a tag is written, and whatever follows it, it is the first token, it ends at its own `>`,
and it is self-closing when a slash stands at its end. Its attributes are read as they were meant,
by folded name. A name that is written more than once keeps its first place and has its last value.
-/
theorem next_eq (following : String) :
    ∃ raw map, (Scanner.ofSource (tag.source ++ following)).next =
        (some (.ok ⟨.tagOpen (Text.foldAscii tag.name) raw tag.slash?.isSome,
            .between .start (Position.start.advance tag.chars), tag.source⟩),
          .inText following.toList (Position.start.advance tag.chars)) ∧
      parse raw = .ok map ∧
      map.names = (tag.attributes.map fun a => Text.foldAscii a.name).eraseDups ∧
      ∀ name, map.get? name = (tag.attributes.reverse.find? fun a =>
        Text.foldAscii a.name == Text.foldAscii name).map SpelledAttribute.value := by
  refine ⟨String.ofList (Text.dropBlanks tag.attributeChars),
    NameMap.ofList (tag.attributes.map SpelledAttribute.pair), ?_, ?_, ?_, fun name => ?_⟩
  · have hsource : (tag.source ++ following).toList =
        '<' :: (tag.inside ++ '>' :: following.toList) := by
      rw [String.toList_append, source, String.toList_ofList, chars]
      simp
    rw [Scanner.next_tag hsource tag.hidden (tag.opensTag_inside _), tag.ofTag_inside]
    rfl
  · rw [parse, String.toList_ofList, readInto_dropBlanks]
    exact readInto_attributes tag.attributes .empty _
  · rw [NameMap.names_ofList, List.map_map]
    rfl
  · rw [NameMap.get?_ofList, ← List.map_reverse, List.find?_map, Option.map_map]
    rfl

/-- A tag with a slash, in which one name is written twice. A value holds the mark of its quotes, and
values hold what would end the tag or begin a reference. -/
def twiceNamed : SpelledTag where
  name := "cfParam"
  attributes := [
    { gap := [' ']
      name := "Name"
      value? := some
        { before := [' ']
          after := [' ', ' ']
          mark := '"'
          text := "a>\"#"
          blank_before := List.all_eq_true.mp (by decide +kernel)
          blank_after := List.all_eq_true.mp (by decide +kernel)
          isMark := .inl rfl }
      gap_ne_nil := List.cons_ne_nil _ _
      blank_gap := List.all_eq_true.mp (by decide +kernel)
      letter := by decide +kernel
      chars_name := List.all_eq_true.mp (by decide +kernel) },
    { gap := ['\n']
      name := "flag"
      value? := none
      gap_ne_nil := List.cons_ne_nil _ _
      blank_gap := List.all_eq_true.mp (by decide +kernel)
      letter := by decide +kernel
      chars_name := List.all_eq_true.mp (by decide +kernel) },
    { gap := [' ', ' ']
      name := "NAME"
      value? := some
        { before := []
          after := []
          mark := '\''
          text := "it's \">\""
          blank_before := List.forall_mem_nil _
          blank_after := List.forall_mem_nil _
          isMark := .inr rfl }
      gap_ne_nil := List.cons_ne_nil _ _
      blank_gap := List.all_eq_true.mp (by decide +kernel)
      letter := by decide +kernel
      chars_name := List.all_eq_true.mp (by decide +kernel) }]
  slash? := some [' ']
  isName := ⟨by decide +kernel, by decide +kernel⟩
  slash_ne_nil := by decide
  blank_slash := by
    rintro _ ⟨⟩
    exact List.all_eq_true.mp (by decide +kernel)

theorem next_eq_of_twiceNamed :
    twiceNamed.source = "<cfParam Name =  \"a>\"\"#\"\nflag  NAME='it''s \">\"' />" ∧
    ∃ raw map, (Scanner.ofSource (twiceNamed.source ++ "'>")).next =
        (some (.ok ⟨.tagOpen "cfparam" raw true, ⟨0, 50, 1, 1⟩, twiceNamed.source⟩),
          .inText "'>".toList ⟨50, 2, 26⟩) ∧
      parse raw = .ok map ∧ map.names = ["name", "flag"] ∧
      map.get? "name" = some "it's \">\"" ∧ map.get? "flag" = some "" := by
  have hend : Position.start.advance twiceNamed.chars = ⟨50, 2, 26⟩ := by decide +kernel
  have hfolded : Text.foldAscii twiceNamed.name = "cfparam" := by decide +kernel
  obtain ⟨raw, map, hnext, hparse, hnames, hget⟩ := twiceNamed.next_eq "'>"
  rw [hend, hfolded] at hnext
  refine ⟨by decide +kernel, raw, map, hnext, hparse, ?_, ?_, ?_⟩
  · rw [hnames]
    decide +kernel
  · rw [hget]
    decide +kernel
  · rw [hget]
    decide +kernel

end SpelledTag

end TagTemplate
