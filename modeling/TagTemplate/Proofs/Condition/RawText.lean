import Mathlib.Data.List.TakeWhile
import TagTemplate.Proofs.Condition.Writing
import TagTemplate.Proofs.Source.Quotes

/-!
# Conditions as the text of a tag

A condition can be the attribute text of a tag as it is. In such a text blanks at either end do not
matter (`tokenize_trim`), and when the condition is cut into tokens, all its quotes are closed and
its last character is no slash (`closed_of_tokenize`). So the tag ends where it should, and does not
close itself.
-/

namespace TagTemplate.Condition

section
variable {blanks : List Char}

/-! ## Blanks at the ends -/

theorem ne_mark_of_isBlank {c mark : Char} (h : Text.isBlank c = true)
    (hmark : mark = '"' ∨ mark = '\'' ∨ mark = '#') : c ≠ mark := by
  rintro rfl
  rcases hmark with rfl | rfl | rfl <;> exact absurd h (by decide)

theorem readQuoted_blanks {mark : Char} (hmark : mark = '"' ∨ mark = '\'') (h : Blank blanks) :
    Attributes.readQuoted mark blanks = none := by
  induction blanks with
  | nil => rfl
  | cons c blanks ih =>
    obtain ⟨hc, hblanks⟩ := List.forall_mem_cons.mp h
    have hne : c ≠ mark := ne_mark_of_isBlank hc (hmark.imp_right .inl)
    rw [Attributes.readQuoted.eq_def]
    simp only [if_neg hne, ih hblanks, Option.map_none]

/-- Blanks at the end are left after a quoted text. -/
theorem readQuoted_append_blanks {mark : Char} (hmark : mark = '"' ∨ mark = '\'')
    (h : Blank blanks) (cs : List Char) :
    Attributes.readQuoted mark (cs ++ blanks) =
      (Attributes.readQuoted mark cs).map fun split => (split.1, split.2 ++ blanks) := by
  fun_induction Attributes.readQuoted mark cs with
  | case1 => exact readQuoted_blanks hmark h
  | case2 rest ih =>
    rw [List.cons_append, List.cons_append, Attributes.readQuoted.eq_def]
    simp only [if_true, ih, Option.map_map]
    rfl
  | case3 d rest hd =>
    rw [List.cons_append, List.cons_append, Attributes.readQuoted.eq_def]
    simp only [if_true, if_neg hd]
    rfl
  | case4 =>
    cases blanks with
    | nil => simp [Attributes.readQuoted]
    | cons d blanks =>
      have hd : d ≠ mark := ne_mark_of_isBlank (h d (List.mem_cons_self ..)) (hmark.imp_right .inl)
      rw [List.singleton_append, Attributes.readQuoted.eq_def]
      simp only [if_true, if_neg hd]
      rfl
  | case5 c rest hc ih =>
    rw [List.cons_append, Attributes.readQuoted.eq_def]
    simp only [if_neg hc, ih, Option.map_map]
    rfl

/-- Blanks at the end are left after a sign. -/
theorem readSign_append_blanks (h : Blank blanks) (c : Char) (rest : List Char) :
    readSign (c :: (rest ++ blanks)) =
      (readSign (c :: rest)).map fun split => (split.1, split.2 ++ blanks) := by
  cases rest with
  | nil =>
    cases blanks with
    | nil => simp
    | cons d blanks =>
      have hd : d ≠ '=' ∧ d ≠ '>' ∧ d ≠ '&' ∧ d ≠ '|' := by
        have hblank := h d (List.mem_cons_self ..)
        refine ⟨?_, ?_, ?_, ?_⟩ <;> (rintro rfl; exact absurd hblank (by decide))
      unfold readSign
      split <;> simp_all
  | cons d rest =>
    -- what comes second decides, and it is not touched
    rw [List.cons_append]
    unfold readSign
    split
    case h_5 hequal heq =>
      obtain ⟨rfl, rfl⟩ := List.cons.inj heq
      have hd : d ≠ '=' := fun hd => hequal _ (by rw [hd])
      simp [hd]
    case h_9 hgreater hequal heq =>
      obtain ⟨rfl, rfl⟩ := List.cons.inj heq
      have hd : d ≠ '>' ∧ d ≠ '=' :=
        ⟨fun hd => hgreater _ (by rw [hd]), fun hd => hequal _ (by rw [hd])⟩
      simp [hd]
    case h_10 hequal heq =>
      obtain ⟨rfl, rfl⟩ := List.cons.inj heq
      have hd : d ≠ '=' := fun hd => hequal _ (by rw [hd])
      simp [hd]
    all_goals simp_all

/-- Blanks at the end are left after a stretch of one class of characters. -/
theorem span_append_blanks {p : Char → Bool} (hp : ∀ {c}, Text.isBlank c = true → p c = false)
    (h : Blank blanks) (cs : List Char) :
    (cs ++ blanks).takeWhile p = cs.takeWhile p ∧
      (cs ++ blanks).dropWhile p = cs.dropWhile p ++ blanks := by
  induction cs with
  | nil =>
    cases blanks with
    | nil => exact ⟨rfl, rfl⟩
    | cons d blanks => simp [hp (h d (List.mem_cons_self ..))]
  | cons c cs ih =>
    by_cases hc : p c = true
    · simp [hc, ih]
    · simp [hc]

theorem beginsNumeral_append_blanks (h : Blank blanks) (c : Char) (rest : List Char) :
    beginsNumeral c (rest ++ blanks) = beginsNumeral c rest := by
  unfold beginsNumeral
  cases rest with
  | cons d rest => rfl
  | nil =>
    cases blanks with
    | nil => rfl
    | cons d blanks =>
      have hnumeral := isNumeralChar_of_isBlank (h d (List.mem_cons_self ..))
      have hd : d.isDigit = false := (Bool.or_eq_false_iff.mp hnumeral).1
      simp [hd]

/-- A numeral, a word, or nothing that can be read, with blanks at the end of the condition. -/
theorem readTokens_of_noSign (h : Blank blanks) (acc : List Token) {c : Char} {rest : List Char}
    (hblank : ¬ Text.isBlank c = true) (hquote : ¬ (c = '"' ∨ c = '\'')) (hmark : ¬ c = '#')
    (hsign : readSign (c :: rest) = none) :
    readTokens acc (c :: rest ++ blanks) =
      if beginsNumeral c rest then
        match Decimal.readChars (c :: (rest ++ blanks).takeWhile isNumeralChar) with
        | some x => readTokens (.number x :: acc) ((rest ++ blanks).dropWhile isNumeralChar)
        | none => .error (.invalidNumber
            (String.ofList (c :: (rest ++ blanks).takeWhile isNumeralChar)))
      else if Text.isLetter c || c == '_' then
        readTokens (pushWord acc (String.ofList (c :: (rest ++ blanks).takeWhile isWordChar)))
          ((rest ++ blanks).dropWhile isWordChar)
      else .error (.unexpectedCharacter c) := by
  have hsign' := readSign_append_blanks h c rest
  rw [hsign] at hsign'
  rw [List.cons_append, readTokens, if_neg hblank, if_neg hquote, if_neg hmark,
    beginsNumeral_append_blanks h]
  split
  next h' => rw [hsign'] at h'; cases h'
  next => rfl

/-- Blanks at the end of a condition do not matter. -/
theorem readTokens_append_blanks (h : Blank blanks) (acc : List Token) (cs : List Char) :
    readTokens acc (cs ++ blanks) = readTokens acc cs := by
  fun_induction readTokens acc cs with
  | case1 acc =>
    have hrest : readTokens acc (blanks ++ []) = readTokens acc [] := readTokens_blanks acc h
    rw [List.append_nil] at hrest
    rw [List.nil_append, hrest, readTokens]
  | case2 acc c rest hblank ih => rw [List.cons_append, readTokens_blank acc hblank, ih]
  | case3 acc c rest hblank hquote value after hread ih =>
    have hread' := readQuoted_append_blanks hquote h rest
    rw [hread] at hread'
    rw [List.cons_append, readTokens, if_neg hblank, if_pos hquote]
    split
    next h' => rw [hread'] at h'; cases h'; exact ih
    next h' => rw [hread'] at h'; cases h'
  | case4 acc c rest hblank hquote hread =>
    have hread' := readQuoted_append_blanks hquote h rest
    rw [hread] at hread'
    rw [List.cons_append, readTokens, if_neg hblank, if_pos hquote]
    split
    next h' => rw [hread'] at h'; cases h'
    next h' => rfl
  | case5 acc rest d after hdrop name hblank hquote ih =>
    have hdrop' : (rest ++ blanks).dropWhile (· != '#') = d :: (after ++ blanks) := by
      rw [List.dropWhile_append, hdrop]
      rfl
    have htake : (rest ++ blanks).takeWhile (· != '#') = rest.takeWhile (· != '#') := by
      have hlength := congrArg List.length (List.takeWhile_append_dropWhile (p := (· != '#'))
        (l := rest))
      rw [hdrop, List.length_append, List.length_cons] at hlength
      rw [List.takeWhile_append, if_neg (by omega)]
    rw [List.cons_append, readTokens, if_neg hblank, if_neg hquote, if_pos rfl]
    split
    next h' => rw [hdrop'] at h'; cases h'; rw [htake]; exact ih
    next h' => rw [hdrop'] at h'; cases h'
  | case6 acc rest hdrop hblank hquote =>
    have hdrop' : (rest ++ blanks).dropWhile (· != '#') = [] := by
      have hplain : ∀ d ∈ blanks, (d != '#') = true := fun d hd =>
        bne_iff_ne.mpr (ne_mark_of_isBlank (h d hd) (.inr (.inr rfl)))
      rw [List.dropWhile_append, hdrop]
      exact List.dropWhile_eq_nil_iff.mpr hplain
    rw [List.cons_append, readTokens, if_neg hblank, if_neg hquote, if_pos rfl]
    split
    next h' => rw [hdrop'] at h'; cases h'
    next h' => rfl
  | case7 acc c rest hblank hquote hmark token after hsign ih =>
    have hsign' := readSign_append_blanks h c rest
    rw [hsign] at hsign'
    rw [List.cons_append, readTokens_sign acc hsign']
    exact ih
  | case8 acc c rest hblank hquote hmark hsign hbegins numeral x hvalue ih =>
    obtain ⟨htake, hdrop⟩ := span_append_blanks isNumeralChar_of_isBlank h rest
    rw [readTokens_of_noSign h acc hblank hquote hmark hsign, if_pos hbegins, htake, hdrop, hvalue]
    exact ih
  | case9 acc c rest hblank hquote hmark hsign hbegins numeral hvalue =>
    obtain ⟨htake, hdrop⟩ := span_append_blanks isNumeralChar_of_isBlank h rest
    rw [readTokens_of_noSign h acc hblank hquote hmark hsign, if_pos hbegins, htake, hdrop, hvalue]
  | case10 acc c rest hblank hquote hmark hsign hbegins hletter ih =>
    obtain ⟨htake, hdrop⟩ := span_append_blanks isWordChar_of_isBlank h rest
    rw [readTokens_of_noSign h acc hblank hquote hmark hsign, if_neg hbegins, if_pos hletter, htake,
      hdrop]
    exact ih
  | case11 acc c rest hblank hquote hmark hsign hbegins hletter =>
    rw [readTokens_of_noSign h acc hblank hquote hmark hsign, if_neg hbegins, if_neg hletter]

end

theorem tokenize_trim (source : String) : tokenize (Text.trim source) = tokenize source := by
  obtain ⟨front, back, hfront, hback, hsplit⟩ := Text.trimChars_split source.toList
  have htrim : (Text.trim source).toList = Text.trimChars source.toList := String.toList_ofList
  rw [tokenize, tokenize, htrim]
  conv_rhs => rw [hsplit, readTokens_blanks [] hfront, readTokens_append_blanks hback]

theorem evaluate_trim (source : String) (scope : Scope) :
    evaluate (Text.trim source) scope = evaluate source scope := by
  rw [evaluate, evaluate, tokenize_trim]

/-! ## How conditions end -/

/-- All quotes are closed at the end of the text, and its last character is no slash. -/
structure EndsOutside (cs : List Char) : Prop where
  closed : quoteAfter none cs = none
  noSlash : cs.getLast? ≠ some '/'

theorem EndsOutside.nil : EndsOutside [] := ⟨rfl, nofun⟩

theorem EndsOutside.append {part rest : List Char} (hpart : EndsOutside part)
    (hrest : EndsOutside rest) : EndsOutside (part ++ rest) where
  closed := by rw [quoteAfter_append, hpart.closed, hrest.closed]
  noSlash := by
    rw [List.getLast?_append]
    cases hlast : rest.getLast? with
    | none => exact hpart.noSlash
    | some c =>
      have hslash := hrest.noSlash
      rw [hlast] at hslash
      exact hslash

/-- Neither a mark nor a slash. -/
def isInner (c : Char) : Bool := c != '"' && c != '\'' && c != '/'

theorem not_mark_of_isInner {c : Char} (h : isInner c = true) : ¬ (c = '"' ∨ c = '\'') := by
  rintro (rfl | rfl) <;> exact absurd h (by decide)

theorem endsOutside_of_inner {part : List Char} (h : ∀ c ∈ part, isInner c = true) :
    EndsOutside part where
  closed := (quoteAfter_of_plain fun c hc => not_mark_of_isInner (h c hc)).1
  noSlash hlast := absurd (h _ (List.mem_of_getLast? hlast)) (by decide)

theorem isInner_of_isWordChar {c : Char} (h : isWordChar c = true) : isInner c = true := by
  have hne : c ≠ '"' ∧ c ≠ '\'' ∧ c ≠ '/' := by
    refine ⟨?_, ?_, ?_⟩ <;> (rintro rfl; exact absurd h (by decide))
  simp [isInner, hne]

theorem isInner_of_isBlank {c : Char} (h : Text.isBlank c = true) : isInner c = true := by
  have hne : c ≠ '"' ∧ c ≠ '\'' ∧ c ≠ '/' := by
    refine ⟨?_, ?_, ?_⟩ <;> (rintro rfl; exact absurd h (by decide))
  simp [isInner, hne]

/-- The characters of a sign. -/
theorem inner_of_readSign {cs after : List Char} {token : Token}
    (h : readSign cs = some (token, after)) :
    ∃ part, cs = part ++ after ∧ ∀ c ∈ part, isInner c = true := by
  unfold readSign at h
  split at h
  all_goals first
    | (cases h; done)
    | (cases h; exact ⟨[_], rfl, List.all_eq_true.mp rfl⟩)
    | (cases h; exact ⟨[_, _], rfl, List.all_eq_true.mp rfl⟩)

/-- What is left after a text without marks and slashes decides. -/
theorem EndsOutside.after_inner {part rest : List Char} (hpart : ∀ c ∈ part, isInner c = true)
    (hmark : '#' ∉ outsideQuotes none (part ++ rest))
    (h : '#' ∉ outsideQuotes none rest → EndsOutside rest) : EndsOutside (part ++ rest) := by
  have hplain := quoteAfter_of_plain fun c hc => not_mark_of_isInner (hpart c hc)
  rw [outsideQuotes_append, hplain.1, List.mem_append, not_or] at hmark
  exact (endsOutside_of_inner hpart).append (h hmark.2)

/-- A condition that is cut into tokens ends outside of quotes, and not in a slash, if no name in it
stands between `#` marks. -/
theorem endsOutside_of_readTokens {acc tokens : List Token} {cs : List Char}
    (h : readTokens acc cs = .ok tokens) (hmark : '#' ∉ outsideQuotes none cs) :
    EndsOutside cs := by
  fun_induction readTokens acc cs with
  | case1 => exact .nil
  | case2 acc c rest hblank ih =>
    have hinner : ∀ d ∈ [c], isInner d = true :=
      List.forall_mem_singleton.mpr (isInner_of_isBlank hblank)
    exact .after_inner hinner hmark (ih h)
  | case3 acc c rest hblank hquote value after hread ih =>
    obtain ⟨inside, rfl, hafter, houtside, hlast⟩ := quoteAfter_of_readQuoted hquote hread
    have hquoted : EndsOutside (c :: inside) := by
      refine ⟨?_, ?_⟩
      · rw [quoteAfter_mark hquote, hafter]
      · rw [List.getLast?_cons, hlast]
        rintro ⟨⟩
        exact absurd hquote (by decide)
    refine hquoted.append (ih h ?_)
    rw [outsideQuotes, if_pos hquote, outsideQuotes_append, hafter, houtside] at hmark
    exact hmark
  | case4 => cases h
  | case5 acc rest =>
    rw [outsideQuotes, if_neg (by decide)] at hmark
    exact absurd (List.mem_cons_self ..) hmark
  | case6 => cases h
  | case7 acc c rest hblank hquote hname token after hsign ih =>
    obtain ⟨part, hpart, hinner⟩ := inner_of_readSign hsign
    rw [hpart] at hmark ⊢
    exact .after_inner hinner hmark (ih h)
  | case8 acc c rest hblank hquote hname hsign hbegins numeral x hvalue ih =>
    rw [← List.takeWhile_append_dropWhile (p := isNumeralChar) (l := rest), ← List.cons_append]
      at hmark ⊢
    refine .after_inner (List.forall_mem_cons.mpr ⟨?_, fun d hd => ?_⟩) hmark (ih h)
    · rcases Bool.or_eq_true_iff.mp hbegins with hdigit | hminus
      · have hnumeral : isNumeralChar c = true := Bool.or_eq_true_iff.mpr (.inl hdigit)
        exact isInner_of_isWordChar (isWordChar_of_isNumeralChar hnumeral)
      · rw [beq_iff_eq.mp (Bool.and_eq_true_iff.mp hminus).1]
        rfl
    · exact isInner_of_isWordChar (isWordChar_of_isNumeralChar (List.mem_takeWhile_imp hd))
  | case9 => cases h
  | case10 acc c rest hblank hquote hname hsign hbegins hletter ih =>
    rw [← List.takeWhile_append_dropWhile (p := isWordChar) (l := rest), ← List.cons_append]
      at hmark ⊢
    refine .after_inner (List.forall_mem_cons.mpr ⟨?_, fun d hd => ?_⟩) hmark (ih h)
    · rcases Bool.or_eq_true_iff.mp hletter with hletter | hline
      · exact isInner_of_isWordChar (isWordChar_of_isLetter hletter)
      · rw [beq_iff_eq.mp hline]
        rfl
    · exact isInner_of_isWordChar (List.mem_takeWhile_imp hd)
  | case11 => cases h

/-- So is a condition without the blanks at its ends. -/
theorem endsOutside_trim {source : String} {tokens : List Token}
    (h : tokenize source = .ok tokens) (hmark : '#' ∉ outsideQuotes none source.toList) :
    EndsOutside (Text.trimChars source.toList) := by
  rw [← tokenize_trim, tokenize, Text.trim, String.toList_ofList] at h
  refine endsOutside_of_readTokens h ?_
  obtain ⟨front, back, hfront, -, hsplit⟩ := Text.trimChars_split source.toList
  have hplain := quoteAfter_of_plain fun c hc =>
    not_mark_of_isInner (isInner_of_isBlank (hfront c hc))
  rw [hsplit, outsideQuotes_append, hplain.1, outsideQuotes_append] at hmark
  exact fun hmem => hmark (List.mem_append_right _ (List.mem_append_left _ hmem))

end TagTemplate.Condition
