import TagTemplate.Proofs.Names.Bindings
import TagTemplate.Proofs.Text.Blanks
import TagTemplate.Source.Attributes

/-!
# Attribute text

Attributes are written as `name="value"`, with a space between them and each double quote in a
value doubled. `parse_print` says that reading such a text gives the attributes back, as long as
their names are distinct and small. The values are arbitrary: nothing in a value ends it early.
-/

namespace TagTemplate

namespace Attributes

/-! ## Writing attributes -/

/-- A value as it stands between two of a mark: each such mark in it is doubled. -/
def doubledBy (mark : Char) (value : List Char) : List Char :=
  value.flatMap fun c => if c = mark then [mark, mark] else [c]

/-- An attribute as it stands in a tag. -/
def printEntry (entry : String × String) : List Char :=
  entry.1.toList ++ '=' :: '"' :: doubledBy '"' entry.2.toList ++ ['"']

/-- Attributes as they stand after the name of a tag, with a space before each. -/
def spaced (entries : List (String × String)) : List Char :=
  entries.flatMap fun entry => ' ' :: printEntry entry

/-- The text of attributes, with a space between each two. -/
def print (attributes : Attributes) : List Char := (spaced attributes.toList).tail

/-- A name as attributes are stored: a small letter, then small letters, digits and
underscores. -/
def isSmallName (name : String) : Bool :=
  match name.toList with
  | [] => false
  | c :: rest => c.isLower && rest.all fun d => d.isLower || d.isDigit || d == '_'

/-! ## Names -/

/-- A small name is a letter and characters of a name. -/
theorem chars_of_isSmallName {name : String} (h : isSmallName name = true) :
    ∃ c rest, name.toList = c :: rest ∧ c.isLower = true ∧
      ∀ d ∈ rest, d.isLower = true ∨ d.isDigit = true ∨ d = '_' := by
  unfold isSmallName at h
  split at h
  · cases h
  · next c rest hname =>
    rw [Bool.and_eq_true, List.all_eq_true] at h
    refine ⟨c, rest, hname, h.1, fun d hd => ?_⟩
    simpa [or_assoc] using h.2 d hd

/-- The small letters by their numbers. -/
theorem isLower_iff {c : Char} :
    c.isLower = true ↔ 97 ≤ c.val.toNat ∧ c.val.toNat ≤ 122 := by
  show (decide ('a'.val ≤ c.val) && decide (c.val ≤ 'z'.val)) = true ↔ _
  rw [Bool.and_eq_true, decide_eq_true_eq, decide_eq_true_eq, UInt32.le_iff_toNat_le,
    UInt32.le_iff_toNat_le]
  exact Iff.rfl

theorem isAlpha_of_isLower {c : Char} (h : c.isLower = true) : c.isAlpha = true := by
  show (c.isUpper || c.isLower) = true
  rw [h, Bool.or_true]

theorem isNameChar_of_small {d : Char}
    (h : d.isLower = true ∨ d.isDigit = true ∨ d = '_') : isNameChar d = true := by
  rcases h with h | h | rfl
  · simp [isNameChar, Char.isAlphanum, isAlpha_of_isLower h]
  · simp [isNameChar, Char.isAlphanum, h]
  · rfl

/-- Small letters, digits and underscores are no capitals. -/
theorem toLower_of_small {d : Char}
    (h : d.isLower = true ∨ d.isDigit = true ∨ d = '_') : d.toLower = d := by
  have hcap : ¬ (d.val ≥ 'A'.val ∧ d.val ≤ 'Z'.val) := by
    simp only [isLower_iff, Char.isDigit, Bool.and_eq_true, decide_eq_true_eq, ge_iff_le,
      UInt32.le_iff_toNat_le] at h ⊢
    change (97 ≤ d.val.toNat ∧ d.val.toNat ≤ 122) ∨ (48 ≤ d.val.toNat ∧ d.val.toNat ≤ 57) ∨ d = '_'
      at h
    change ¬ (65 ≤ d.val.toNat ∧ d.val.toNat ≤ 90)
    rcases h with h | h | rfl
    · omega
    · omega
    · decide
  exact dif_neg hcap

/-- A small name is folded. -/
theorem foldAscii_of_isSmallName {name : String} (h : isSmallName name = true) :
    Text.foldAscii name = name := by
  obtain ⟨c, rest, hname, hc, hrest⟩ := chars_of_isSmallName h
  have hmap : rest.map Char.toLower = rest.map id :=
    List.map_congr_left fun d hd => toLower_of_small (hrest d hd)
  rw [Text.foldAscii, hname, List.map_cons, toLower_of_small (Or.inl hc), hmap, List.map_id,
    ← hname, String.ofList_toList]

/-! ## Reading what was written -/

/-- A value with its marks doubled reads back, up to the first mark that stands alone. -/
theorem readQuoted_doubledBy (mark : Char) (value : List Char) {rest : List Char}
    (h : rest.head? ≠ some mark) :
    readQuoted mark (doubledBy mark value ++ mark :: rest) = some (value, rest) := by
  induction value with
  | nil =>
    rw [doubledBy, List.flatMap_nil, List.nil_append]
    cases rest with
    | nil => simp [readQuoted]
    | cons d rest =>
      have hd : d ≠ mark := fun hd => h (by rw [hd]; rfl)
      simp [readQuoted, hd]
  | cons c value ih =>
    rw [doubledBy, List.flatMap_cons, List.append_assoc]
    by_cases hc : c = mark
    · -- a mark that was doubled reads as one
      rw [if_pos hc, hc]
      show readQuoted mark (mark :: mark :: (doubledBy mark value ++ mark :: rest)) = _
      rw [readQuoted.eq_def]
      simp only [↓reduceIte, ih, Option.map_some]
    · rw [if_neg hc]
      show readQuoted mark (c :: (doubledBy mark value ++ mark :: rest)) = _
      rw [readQuoted.eq_def]
      exact (if_neg hc).trans (congrArg (Option.map _) ih)

/-- A value in quotes after an equals sign, with blanks around the sign or without. -/
theorem readAssignment_quoted {mark : Char} (hmark : mark = '"' ∨ mark = '\'')
    {before after : List Char} (hbefore : ∀ c ∈ before, Text.isBlank c = true)
    (hafter : ∀ c ∈ after, Text.isBlank c = true) (value : List Char) {rest : List Char}
    (h : rest.head? ≠ some mark) :
    readAssignment (before ++ '=' :: (after ++ mark :: (doubledBy mark value ++ mark :: rest))) =
      .ok (value, rest) := by
  have hsign : Text.isBlank '=' = false := rfl
  have hquote : Text.isBlank mark = false := by
    rcases hmark with rfl | rfl <;> rfl
  rw [readAssignment, Text.dropBlanks_append hbefore, Text.dropBlanks_cons hsign]
  show readValue (Text.dropBlanks (after ++ mark :: (doubledBy mark value ++ mark :: rest))) = _
  rw [Text.dropBlanks_append hafter, Text.dropBlanks_cons hquote, readValue, if_pos hmark,
    readQuoted_doubledBy mark value h]

/-- Without an equals sign after the name there is no value. -/
theorem readAssignment_flag {rest : List Char} (h : (Text.dropBlanks rest).head? ≠ some '=') :
    readAssignment rest = .ok ([], rest) := by
  unfold readAssignment
  split
  · next heq => exact absurd (congrArg List.head? heq) h
  · rfl

/-! ## Reading step by step -/

section

variable {c : Char} {rest value after : List Char}

/-- A quoted text where a name is expected is passed over. -/
theorem readInto_quoted (hc : c = '"' ∨ c = '\'') (h : readQuoted c rest = some (value, after))
    (map : Attributes) (size : Nat) :
    readInto map size (c :: rest) = readInto map size after := by
  rw [readInto, if_pos hc]
  split
  · next hread =>
    rw [h] at hread
    cases hread
    rfl
  · next hread =>
    rw [h] at hread
    cases hread

/-- There a quote that never closes makes the text unreadable. -/
theorem readInto_unclosed (hc : c = '"' ∨ c = '\'') (h : readQuoted c rest = none)
    (map : Attributes) (size : Nat) :
    readInto map size (c :: rest) = .error ⟨c, size - (rest.length + 1)⟩ := by
  rw [readInto, if_pos hc]
  split
  · next hread =>
    rw [h] at hread
    cases hread
  · rfl

/-- A letter begins no quoted text. -/
theorem not_mark_of_isAlpha (hc : c.isAlpha = true) : ¬ (c = '"' ∨ c = '\'') := by
  rintro (rfl | rfl)
  · exact absurd hc (by decide)
  · exact absurd hc (by decide)

/-- A letter begins a name, and what is assigned to the name is read behind it. -/
theorem readInto_assigned (hc : c.isAlpha = true)
    (h : readAssignment (rest.dropWhile isNameChar) = .ok (value, after))
    (map : Attributes) (size : Nat) :
    readInto map size (c :: rest) =
      readInto (map.insert (String.ofList (c :: rest.takeWhile isNameChar)) (String.ofList value))
        size after := by
  rw [readInto, if_neg (not_mark_of_isAlpha hc), if_pos hc]
  split
  · next hread =>
    rw [h] at hread
    cases hread
    rfl
  · next hread =>
    rw [h] at hread
    cases hread

/-- An assignment that cannot be read makes the text unreadable. -/
theorem readInto_unassigned (hc : c.isAlpha = true) {mark : Char} {left : List Char}
    (h : readAssignment (rest.dropWhile isNameChar) = .error (mark, left))
    (map : Attributes) (size : Nat) :
    readInto map size (c :: rest) = .error ⟨mark, size - (left.length + 1)⟩ := by
  rw [readInto, if_neg (not_mark_of_isAlpha hc), if_pos hc]
  split
  · next hread =>
    rw [h] at hread
    cases hread
  · next hread =>
    rw [h] at hread
    cases hread
    rfl

/-- Any other character is passed over. -/
theorem readInto_passed (hquote : ¬ (c = '"' ∨ c = '\'')) (hletter : ¬ c.isAlpha = true)
    (map : Attributes) (size : Nat) (rest : List Char) :
    readInto map size (c :: rest) = readInto map size rest := by
  rw [readInto, if_neg hquote, if_neg hletter]

end

/-- A name is read with what is assigned to it, and the reading goes on after that. -/
theorem readInto_name {c : Char} {cs : List Char} (hc : c.isAlpha = true)
    (hcs : ∀ d ∈ cs, isNameChar d = true) {rest value after : List Char}
    (hrest : ∀ d ∈ rest.head?, isNameChar d = false)
    (h : readAssignment rest = .ok (value, after)) (map : Attributes) (size : Nat) :
    readInto map size (c :: (cs ++ rest)) =
      readInto (map.insert (String.ofList (c :: cs)) (String.ofList value)) size after := by
  have hstop : rest.dropWhile isNameChar = rest ∧ rest.takeWhile isNameChar = [] := by
    cases rest with
    | nil => exact ⟨rfl, rfl⟩
    | cons d rest =>
      have hd : ¬ isNameChar d = true := Bool.eq_false_iff.mp (hrest d rfl)
      exact ⟨List.dropWhile_cons_of_neg hd, List.takeWhile_cons_of_neg hd⟩
  have hdrop : (cs ++ rest).dropWhile isNameChar = rest := by
    rw [List.dropWhile_append_of_pos hcs, hstop.1]
  have htake : (cs ++ rest).takeWhile isNameChar = cs := by
    rw [List.takeWhile_append_of_pos hcs, hstop.2, List.append_nil]
  rw [← hdrop] at h
  rw [readInto_assigned hc h, htake]

/-- A space between attributes is passed over. -/
theorem readInto_space (map : Attributes) (size : Nat) (cs : List Char) :
    readInto map size (' ' :: cs) = readInto map size cs :=
  readInto_passed (by decide) (by decide) map size cs

/-- One attribute is read, and the reading goes on after it. -/
theorem readInto_printEntry {entry : String × String} (hname : isSmallName entry.1 = true)
    (map : Attributes) (size : Nat) {rest : List Char} (h : rest.head? ≠ some '"') :
    readInto map size (printEntry entry ++ rest) =
      readInto (map.insert entry.1 entry.2) size rest := by
  obtain ⟨name, value⟩ := entry
  obtain ⟨c, cs, hcs, hc, hsmall⟩ := chars_of_isSmallName hname
  have hprint : printEntry (name, value) ++ rest =
      c :: (cs ++ ('=' :: '"' :: (doubledBy '"' value.toList ++ '"' :: rest))) := by
    simp [printEntry, hcs]
  have hvalue : readAssignment ('=' :: '"' :: (doubledBy '"' value.toList ++ '"' :: rest)) =
      .ok (value.toList, rest) :=
    @readAssignment_quoted '"' (.inl rfl) [] [] nofun nofun value.toList rest h
  have hsign : ∀ after : List Char, ∀ d ∈ ('=' :: after).head?, isNameChar d = false := by
    rintro after _ ⟨⟩
    rfl
  rw [hprint, readInto_name (isAlpha_of_isLower hc) (fun d hd => isNameChar_of_small (hsmall d hd))
    (hsign _) hvalue, ← hcs, String.ofList_toList, String.ofList_toList]

/-- Attributes are read one after the other. -/
theorem readInto_spaced {entries : List (String × String)}
    (h : ∀ entry ∈ entries, isSmallName entry.1 = true) (map : Attributes) (size : Nat) :
    readInto map size (spaced entries) =
      .ok (entries.foldl (fun m entry => NameMap.insert m entry.1 entry.2) map) := by
  induction entries generalizing map with
  | nil =>
    rw [spaced, List.flatMap_nil, readInto]
    rfl
  | cons entry rest ih =>
    have hspace : (spaced rest).head? ≠ some '"' := by
      cases rest <;> simp [spaced]
    have hcons : spaced (entry :: rest) = ' ' :: (printEntry entry ++ spaced rest) := rfl
    rw [hcons, readInto_space]
    rw [readInto_printEntry (h entry (List.mem_cons_self ..)) map size hspace]
    exact ih (fun e he => h e (List.mem_cons_of_mem _ he)) _

/-- Reading the text of attributes gives the attributes back. -/
theorem parse_print {attributes : Attributes}
    (hnames : ∀ entry ∈ attributes.toList, isSmallName entry.1 = true)
    (hnodup : (attributes.toList.map Prod.fst).Nodup) :
    parse (String.ofList (print attributes)) = .ok attributes := by
  have htail : ∀ (map : Attributes) (size : Nat), readInto map size (print attributes) =
      readInto map size (spaced attributes.toList) := by
    intro map size
    rw [print]
    cases attributes.toList with
    | nil => rfl
    | cons entry rest => exact (readInto_space map size _).symm
  rw [parse, String.toList_ofList, htail, readInto_spaced hnames]
  have htidy : attributes.Tidy := by
    refine ⟨hnodup, fun name hname => ?_⟩
    obtain ⟨entry, hentry, rfl⟩ := List.mem_map.mp hname
    exact foldAscii_of_isSmallName (hnames entry hentry)
  exact congrArg Except.ok htidy.ofList_toList

end Attributes

end TagTemplate
