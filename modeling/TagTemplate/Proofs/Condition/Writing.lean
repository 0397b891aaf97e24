import TagTemplate.Proofs.Condition.Grammar
import TagTemplate.Proofs.Source.AttributeText
import TagTemplate.Proofs.Text.Blanks

/-!
# Writing conditions

How a condition is written: an operator by any of its words, in any case of their letters, or by its
sign; a text between quotes of either kind with its own mark doubled; a name by itself or between
`#` marks; and blanks between any two tokens. Whatever row of tokens is written like this, the text
is cut into that row again (`tokenize_of_written`), unless a `not` stands right after a sign of
equality.
-/

namespace TagTemplate.Condition

/-! ## Spelling -/

/-- The words of the operators. -/
def keywords : List (Token × String) := [
  (.and, "and"), (.or, "or"), (.not, "not"),
  (.comparison .equal, "eq"), (.comparison .equal, "is"), (.comparison .equal, "equal"),
  (.comparison .notEqual, "neq"), (.comparison .notEqual, "nequal"),
  (.comparison .greater, "gt"),
  (.comparison .greaterOrEqual, "gte"), (.comparison .greaterOrEqual, "ge"),
  (.comparison .less, "lt"),
  (.comparison .lessOrEqual, "lte"), (.comparison .lessOrEqual, "le"),
  (.comparison .contains, "contains")]

/-- The signs of the operators, and the parentheses. -/
def signs : List (Token × String) := [
  (.and, "&&"), (.or, "||"), (.not, "!"),
  (.comparison .equal, "=="),
  (.comparison .notEqual, "!="), (.comparison .notEqual, "<>"),
  (.comparison .greater, ">"), (.comparison .greaterOrEqual, ">="),
  (.comparison .less, "<"), (.comparison .lessOrEqual, "<="),
  (.leftParen, "("), (.rightParen, ")")]

/-- A text of blanks. -/
def Blank (cs : List Char) : Prop := ∀ c ∈ cs, Text.isBlank c = true

/-- What follows a token when blanks stand between the tokens. -/
def Separated (rest : List Char) : Prop := ∀ c ∈ rest.head?, Text.isBlank c = true

/-- The ways to write a token. -/
inductive Spells : Token → List Char → Prop where
  | numeral {c : Char} {cs : List Char} {x : Float} (hbegins : beginsNumeral c cs = true)
      (hchars : ∀ d ∈ cs, isNumeralChar d = true) (hvalue : Decimal.readChars (c :: cs) = some x) :
      Spells (.number x) (c :: cs)
  | quoted {mark : Char} (hmark : mark = '"' ∨ mark = '\'') (value : List Char) :
      Spells (.text (String.ofList value)) (mark :: (Attributes.doubledBy mark value ++ [mark]))
  | marked {inside : List Char} (hinside : '#' ∉ inside) :
      Spells (.name (String.ofList (Text.trimChars inside))) ('#' :: (inside ++ ['#']))
  | name {c : Char} {cs : List Char} (hfirst : Text.isLetter c = true ∨ c = '_')
      (hchars : ∀ d ∈ cs, isWordChar d = true)
      (hfree : ∀ entry ∈ keywords, Text.foldAscii (String.ofList (c :: cs)) ≠ entry.2) :
      Spells (.name (String.ofList (c :: cs))) (c :: cs)
  | keyword {token : Token} {keyword : String} {word : List Char}
      (hentry : (token, keyword) ∈ keywords)
      (hcase : Text.foldAscii (String.ofList word) = keyword) : Spells token word
  | sign {token : Token} {sign : String} (hentry : (token, sign) ∈ signs) :
      Spells token sign.toList
  /-- The words `is not`, and `not` after any other sign of equality. -/
  | isNot {equality blanks word : List Char} (hequality : Spells (.comparison .equal) equality)
      (hne : blanks ≠ []) (hblanks : Blank blanks)
      (hword : Text.foldAscii (String.ofList word) = "not") :
      Spells (.comparison .notEqual) (equality ++ (blanks ++ word))

/-- The ways to write a row of tokens, with blanks between any two of them. -/
inductive Written : List Token → List Char → Prop where
  | nil {blanks : List Char} (hblanks : Blank blanks) : Written [] blanks
  | cons {token : Token} {tokens : List Token} {blanks word rest : List Char}
      (hblanks : Blank blanks) (hword : Spells token word) (hrest : Separated rest)
      (htokens : Written tokens rest) : Written (token :: tokens) (blanks ++ (word ++ rest))

/-! ## Letters, digits and blanks -/

theorem isAlpha_iff {c : Char} : c.isAlpha = true ↔
    (65 ≤ c.val.toNat ∧ c.val.toNat ≤ 90) ∨ (97 ≤ c.val.toNat ∧ c.val.toNat ≤ 122) := by
  show (decide ('A'.val ≤ c.val ∧ c.val ≤ 'Z'.val) || c.isLower) = true ↔ _
  rw [Bool.or_eq_true, Attributes.isLower_iff, decide_eq_true_eq, UInt32.le_iff_toNat_le,
    UInt32.le_iff_toNat_le]
  rfl

theorem isDigit_iff {c : Char} :
    c.isDigit = true ↔ 48 ≤ c.val.toNat ∧ c.val.toNat ≤ 57 := by
  simp only [Char.isDigit, Bool.and_eq_true, decide_eq_true_eq, ge_iff_le,
    UInt32.le_iff_toNat_le]
  rfl

theorem isLetter_of_isAlpha {c : Char} (h : c.isAlpha = true) : Text.isLetter c = true := by
  have hsmall : c.val < 128 := by
    have hbounds := isAlpha_iff.mp h
    show c.val.toNat < 128
    omega
  rw [Text.isLetter, if_pos hsmall]
  exact h

theorem not_isLetter_of_isDigit {c : Char} (h : c.isDigit = true) : Text.isLetter c = false := by
  have hbounds := isDigit_iff.mp h
  have hsmall : c.val < 128 := by
    show c.val.toNat < 128
    omega
  rw [Text.isLetter, if_pos hsmall, Bool.eq_false_iff]
  intro halpha
  have := isAlpha_iff.mp halpha
  omega

theorem isAlpha_of_isLower_toLower {c : Char} (h : c.toLower.isLower = true) :
    c.isAlpha = true := by
  show (c.isUpper || c.isLower) = true
  by_cases hupper : c.val ≥ 'A'.val ∧ c.val ≤ 'Z'.val
  · have hcap : c.isUpper = true := decide_eq_true hupper
    rw [hcap, Bool.true_or]
  · have hsame : c.toLower = c := dif_neg hupper
    rw [hsame] at h
    rw [h, Bool.or_true]

theorem isWordChar_of_isLetter {c : Char} (h : Text.isLetter c = true) : isWordChar c = true := by
  unfold Text.isLetter at h
  unfold isWordChar Text.isLetterOrNumeral Char.isAlphanum
  split_ifs at h ⊢ <;> simp [h]

theorem isWordChar_of_isNumeralChar {c : Char} (h : isNumeralChar c = true) :
    isWordChar c = true := by
  rw [isNumeralChar, Bool.or_eq_true] at h
  rcases h with hdigit | hpoint
  · have hsmall : c.val < 128 := by
      have hbounds := isDigit_iff.mp hdigit
      show c.val.toNat < 128
      omega
    rw [isWordChar, Text.isLetterOrNumeral, if_pos hsmall, Char.isAlphanum, hdigit]
    simp
  · rw [isWordChar, hpoint, Bool.or_true]

/-- No blank is part of a word. -/
theorem isWordChar_of_isBlank {c : Char} (h : Text.isBlank c = true) : isWordChar c = false :=
  Text.eq_false_of_isBlank (by decide +kernel) h

theorem isNumeralChar_of_isBlank {c : Char} (h : Text.isBlank c = true) :
    isNumeralChar c = false := by
  refine Bool.eq_false_iff.mpr fun hnumeral => ?_
  have hword := isWordChar_of_isNumeralChar hnumeral
  rw [isWordChar_of_isBlank h] at hword
  cases hword

/-- A stretch of one class of characters is cut off where a blank follows, or nothing. -/
theorem span_of_separated {p : Char → Bool} (hp : ∀ {c}, Text.isBlank c = true → p c = false)
    {cs rest : List Char} (hcs : ∀ c ∈ cs, p c = true) (hrest : Separated rest) :
    (cs ++ rest).takeWhile p = cs ∧ (cs ++ rest).dropWhile p = rest := by
  rw [List.takeWhile_append_of_pos hcs, List.dropWhile_append_of_pos hcs]
  cases rest with
  | nil => simp
  | cons c rest => simp [hp (hrest c rfl)]

/-! ## Words of operators -/

/-- The words of the operators are small letters. -/
theorem isLower_of_keyword : ∀ entry ∈ keywords,
    entry.2.toList ≠ [] ∧ ∀ c ∈ entry.2.toList, c.isLower = true := by
  have hall : keywords.all fun entry =>
      !entry.2.toList.isEmpty && entry.2.toList.all Char.isLower := by decide
  intro entry hentry
  obtain ⟨hne, hlower⟩ := Bool.and_eq_true_iff.mp (List.all_eq_true.mp hall entry hentry)
  exact ⟨by simpa using hne, List.all_eq_true.mp hlower⟩

/-- A word of an operator is made of letters, whatever their case. -/
theorem letters_of_keyword {token : Token} {keyword : String} {word : List Char}
    (hentry : (token, keyword) ∈ keywords)
    (hcase : Text.foldAscii (String.ofList word) = keyword) :
    word ≠ [] ∧ ∀ c ∈ word, c.isAlpha = true := by
  obtain ⟨hne, hlower⟩ := isLower_of_keyword _ hentry
  rw [← hcase, Text.foldAscii, String.toList_ofList, String.toList_ofList] at hne hlower
  refine ⟨fun hword => hne (by rw [hword]; rfl), fun c hc => ?_⟩
  exact isAlpha_of_isLower_toLower (hlower _ (List.mem_map_of_mem hc))

/-- A word of an operator is that operator. -/
theorem ofWord_of_keyword {token : Token} {keyword word : String}
    (hentry : (token, keyword) ∈ keywords) (hcase : Text.foldAscii word = keyword) :
    Token.ofWord word = token := by
  unfold Token.ofWord
  rw [hcase]
  simp only [keywords, List.mem_cons, Prod.mk.injEq, List.not_mem_nil, or_false] at hentry
  rcases hentry with h | h | h | h | h | h | h | h | h | h | h | h | h | h | h <;>
    (obtain ⟨rfl, rfl⟩ := h; rfl)

/-- A word that is of no operator is a name. -/
theorem ofWord_of_free {word : String}
    (hfree : ∀ entry ∈ keywords, Text.foldAscii word ≠ entry.2) :
    Token.ofWord word = .name word := by
  simp only [keywords, List.forall_mem_cons] at hfree
  simp [Token.ofWord, hfree]

/-! ## Reading one token -/

section
variable (acc : List Token) {c mark : Char} {cs rest : List Char} {token : Token}

theorem readTokens_blank (h : Text.isBlank c = true) :
    readTokens acc (c :: rest) = readTokens acc rest := by
  rw [readTokens, if_pos h]

theorem readTokens_blanks {blanks : List Char} (h : Blank blanks) :
    readTokens acc (blanks ++ rest) = readTokens acc rest := by
  induction blanks with
  | nil => rfl
  | cons c blanks ih =>
    rw [List.cons_append, readTokens_blank acc (h c (List.mem_cons_self ..))]
    exact ih fun d hd => h d (List.mem_cons_of_mem _ hd)

theorem readTokens_quoted (hmark : mark = '"' ∨ mark = '\'') (value : List Char)
    (hrest : rest.head? ≠ some mark) :
    readTokens acc (mark :: (Attributes.doubledBy mark value ++ mark :: rest)) =
      readTokens (.text (String.ofList value) :: acc) rest := by
  have hblank : ¬ Text.isBlank mark = true := by rcases hmark with rfl | rfl <;> decide
  have hread := Attributes.readQuoted_doubledBy mark value hrest
  rw [readTokens, if_neg hblank, if_pos hmark]
  split
  next found after h =>
    rw [hread] at h
    cases h
    rfl
  next h => rw [hread] at h; cases h

theorem readTokens_marked {inside : List Char} (hinside : '#' ∉ inside) :
    readTokens acc ('#' :: (inside ++ '#' :: rest)) =
      readTokens (.name (String.ofList (Text.trimChars inside)) :: acc) rest := by
  have hplain : ∀ d ∈ inside, (d != '#') = true := by
    intro d hd
    rw [bne_iff_ne]
    rintro rfl
    exact hinside hd
  have hdrop : (inside ++ '#' :: rest).dropWhile (· != '#') = '#' :: rest := by
    rw [List.dropWhile_append_of_pos hplain]
    rfl
  have htake : (inside ++ '#' :: rest).takeWhile (· != '#') = inside := by
    rw [List.takeWhile_append_of_pos hplain]
    exact List.append_nil inside
  rw [readTokens, if_neg (by decide), if_neg (by decide), if_pos rfl, htake]
  split
  next d after h =>
    rw [hdrop] at h
    cases h
    rfl
  next h => rw [hdrop] at h; cases h

theorem readTokens_sign (h : readSign (c :: cs) = some (token, rest)) :
    readTokens acc (c :: cs) = readTokens (token :: acc) rest := by
  have hfirst : c ∈ ['(', ')', '=', '!', '<', '>', '&', '|'] := by
    unfold readSign at h
    split at h <;> simp_all
  have hother : Text.isBlank c = false ∧ ¬ (c = '"' ∨ c = '\'') ∧ c ≠ '#' := by
    simp only [List.mem_cons, List.not_mem_nil, or_false] at hfirst
    rcases hfirst with rfl | rfl | rfl | rfl | rfl | rfl | rfl | rfl <;> decide
  rw [readTokens, if_neg (by simp [hother.1]), if_neg hother.2.1, if_neg hother.2.2]
  split
  next found after hsign =>
    rw [h] at hsign
    cases hsign
    rfl
  next hsign => rw [h] at hsign; cases hsign

/-- A character that can begin a numeral or a word. -/
def isStart (c : Char) : Bool := c.isDigit || c == '-' || Text.isLetter c || c == '_'

theorem wordChar_of_isStart (h : isStart c = true) : isWordChar c = true ∨ c = '-' := by
  simp only [isStart, Bool.or_eq_true, beq_iff_eq] at h
  rcases h with ((hdigit | rfl) | hletter) | rfl
  · exact Or.inl (isWordChar_of_isNumeralChar (by rw [isNumeralChar, hdigit, Bool.true_or]))
  · exact Or.inr rfl
  · exact Or.inl (isWordChar_of_isLetter hletter)
  · exact Or.inl (by decide)

/-- What can begin a numeral or a word begins no other token. -/
theorem other_of_isStart (h : isStart c = true) (cs : List Char) :
    Text.isBlank c = false ∧ ¬ (c = '"' ∨ c = '\'') ∧ c ≠ '#' ∧ readSign (c :: cs) = none := by
  refine ⟨?_, ?_, ?_, ?_⟩
  · refine Bool.eq_false_iff.mpr fun hblank => ?_
    have hword := isWordChar_of_isBlank hblank
    rcases wordChar_of_isStart h with hc | rfl
    · rw [hc] at hword
      cases hword
    · exact absurd hblank (by decide)
  · rintro (rfl | rfl) <;> exact absurd h (by decide)
  · rintro rfl
    exact absurd h (by decide)
  · unfold readSign
    split
    case h_13 => rfl
    all_goals
      next heq =>
        cases heq
        exact absurd h (by decide)

theorem readTokens_numeral {x : Float} (hbegins : beginsNumeral c cs = true)
    (hchars : ∀ d ∈ cs, isNumeralChar d = true) (hvalue : Decimal.readChars (c :: cs) = some x)
    (hrest : Separated rest) :
    readTokens acc (c :: (cs ++ rest)) = readTokens (.number x :: acc) rest := by
  have hstart : isStart c = true := by
    unfold beginsNumeral at hbegins
    simp only [Bool.or_eq_true, Bool.and_eq_true] at hbegins
    simp only [isStart, Bool.or_eq_true]
    exact Or.inl (Or.inl (hbegins.imp_right And.left))
  have hlonger : beginsNumeral c (cs ++ rest) = true := by
    unfold beginsNumeral at hbegins ⊢
    cases cs with
    | nil => simp_all
    | cons d cs => simpa using hbegins
  obtain ⟨htake, hdrop⟩ := span_of_separated isNumeralChar_of_isBlank hchars hrest
  obtain ⟨hblank, hquote, hmark, hsign⟩ := other_of_isStart hstart (cs ++ rest)
  rw [readTokens, if_neg (by simp [hblank]), if_neg hquote, if_neg hmark]
  split
  next h => rw [hsign] at h; cases h
  next =>
    rw [if_pos hlonger, htake, hdrop]
    simp only [hvalue]

/-- A letter or an underscore begins no numeral. -/
theorem beginsNumeral_of_letter (hfirst : Text.isLetter c = true ∨ c = '_') :
    beginsNumeral c cs = false := by
  have hdigit : c.isDigit = false := by
    refine Bool.eq_false_iff.mpr fun hdigit => ?_
    rcases hfirst with hletter | rfl
    · rw [not_isLetter_of_isDigit hdigit] at hletter
      cases hletter
    · exact absurd hdigit (by decide)
  have hminus : c ≠ '-' := by
    rintro rfl
    exact absurd hfirst (by decide)
  simp [beginsNumeral, hdigit, hminus]

theorem readTokens_word (hfirst : Text.isLetter c = true ∨ c = '_')
    (hchars : ∀ d ∈ cs, isWordChar d = true) (hrest : Separated rest) :
    readTokens acc (c :: (cs ++ rest)) =
      readTokens (pushWord acc (String.ofList (c :: cs))) rest := by
  have hstart : isStart c = true := by
    rw [isStart]
    rcases hfirst with h | h <;> simp [h]
  have hword : (Text.isLetter c || c == '_') = true := by
    rcases hfirst with h | h <;> simp [h]
  obtain ⟨htake, hdrop⟩ := span_of_separated isWordChar_of_isBlank hchars hrest
  obtain ⟨hblank, hquote, hmark, hsign⟩ := other_of_isStart hstart (cs ++ rest)
  have hnumeral : beginsNumeral c (cs ++ rest) = false := beginsNumeral_of_letter hfirst
  rw [readTokens, if_neg (by simp [hblank]), if_neg hquote, if_neg hmark]
  split
  next h => rw [hsign] at h; cases h
  next => rw [if_neg (by simp [hnumeral]), if_pos hword, htake, hdrop]

/-- A sign in front of a blank is read as a whole. -/
theorem readSign_of_sign {sign : String} (hentry : (token, sign) ∈ signs)
    (hrest : Separated rest) : readSign (sign.toList ++ rest) = some (token, rest) := by
  have hnext : ∀ d ∈ rest.head?, d ≠ '=' ∧ d ≠ '>' := by
    intro d hd
    have hblank := hrest d hd
    constructor <;> (rintro rfl; exact absurd hblank (by decide))
  simp only [signs, List.mem_cons, Prod.mk.injEq, List.not_mem_nil, or_false] at hentry
  rcases hentry with h | h | h | h | h | h | h | h | h | h | h | h <;>
    (obtain ⟨rfl, rfl⟩ := h; cases rest <;> simp_all [readSign])

end

/-! ## Reading what was written -/

/-- A word becomes a token of its own, unless it is a `not` after a sign of equality. -/
theorem pushWord_of_stayApart {acc : List Token} {word : String}
    (h : ∀ before ∈ acc.head?, StayApart before (Token.ofWord word)) :
    pushWord acc word = Token.ofWord word :: acc := by
  unfold pushWord
  split
  next earlier hnot => exact absurd hnot (h _ rfl rfl)
  next => rfl

/-- The word `not` turns a sign of equality around. -/
theorem pushWord_not {acc : List Token} {word : String} (h : Token.ofWord word = .not) :
    pushWord (.comparison .equal :: acc) word = .comparison .notEqual :: acc := by
  simp only [pushWord, h]

/-- A word of an operator is pushed onto the tokens so far. -/
theorem readTokens_keyword (acc : List Token) {token : Token} {keyword : String}
    {word rest : List Char} (hentry : (token, keyword) ∈ keywords)
    (hcase : Text.foldAscii (String.ofList word) = keyword) (hrest : Separated rest) :
    readTokens acc (word ++ rest) = readTokens (pushWord acc (String.ofList word)) rest := by
  obtain ⟨hne, hletters⟩ := letters_of_keyword hentry hcase
  cases word with
  | nil => exact absurd rfl hne
  | cons c cs =>
    have hfirst := isLetter_of_isAlpha (hletters c (List.mem_cons_self ..))
    have hchars : ∀ d ∈ cs, isWordChar d = true := fun d hd =>
      isWordChar_of_isLetter (isLetter_of_isAlpha (hletters d (List.mem_cons_of_mem _ hd)))
    exact readTokens_word acc (Or.inl hfirst) hchars hrest

/-- Whatever way a token is written, it is read, and the reading goes on after it; only a word
`not` must not follow a sign of equality. -/
theorem Spells.read {token : Token} {word : List Char} (h : Spells token word) :
    ∀ {rest : List Char}, Separated rest → ∀ {acc : List Token},
      (∀ before ∈ acc.head?, StayApart before token) →
      readTokens acc (word ++ rest) = readTokens (token :: acc) rest := by
  induction h with
  | numeral hbegins hchars hvalue =>
    intro rest hrest acc _
    exact readTokens_numeral acc hbegins hchars hvalue hrest
  | @quoted mark hmark value =>
    intro rest hrest acc _
    have hnext : rest.head? ≠ some mark := by
      intro hhead
      have hblank := hrest mark hhead
      rcases hmark with rfl | rfl <;> exact absurd hblank (by decide)
    rw [List.cons_append, List.append_assoc]
    exact readTokens_quoted acc hmark value hnext
  | marked hinside =>
    intro rest _ acc _
    rw [List.cons_append, List.append_assoc]
    exact readTokens_marked acc hinside
  | name hfirst hchars hfree =>
    intro rest hrest acc happart
    rw [← ofWord_of_free hfree] at happart ⊢
    rw [List.cons_append, readTokens_word acc hfirst hchars hrest, pushWord_of_stayApart happart]
  | keyword hentry hcase =>
    intro rest hrest acc happart
    rw [← ofWord_of_keyword hentry hcase] at happart ⊢
    rw [readTokens_keyword acc hentry hcase hrest, pushWord_of_stayApart happart]
  | @sign token sign hentry =>
    intro rest hrest acc _
    have hread := readSign_of_sign hentry hrest
    cases hsign : sign.toList ++ rest with
    | nil => rw [hsign] at hread; cases hread
    | cons c cs =>
      rw [hsign] at hread
      exact readTokens_sign acc hread
  | @isNot equality blanks word _ hne hblanks hword ih =>
    intro rest hrest acc _
    have hafter : Separated (blanks ++ word ++ rest) := by
      cases blanks with
      | nil => exact absurd rfl hne
      | cons c blanks =>
        intro d hd
        obtain rfl : c = d := by simpa using hd
        exact hblanks c (List.mem_cons_self ..)
    have hnot : (Token.not, "not") ∈ keywords := by simp [keywords]
    rw [List.append_assoc, ih hafter fun _ _ _ => nofun, List.append_assoc,
      readTokens_blanks _ hblanks, readTokens_keyword _ hnot hword hrest,
      pushWord_not (ofWord_of_keyword hnot hword)]

/-- The tokens that are written are read onto those so far. -/
theorem Written.read {tokens : List Token} {text : List Char} (h : Written tokens text)
    {acc : List Token} (hfirst : ∀ before ∈ acc.head?, ∀ token ∈ tokens.head?,
      StayApart before token) (hunfolded : Unfolded tokens) :
    readTokens acc text = .ok (acc.reverse ++ tokens) := by
  induction h generalizing acc with
  | @nil blanks hblanks =>
    rw [← List.append_nil blanks, readTokens_blanks acc hblanks, readTokens, List.append_nil]
  | @cons token tokens blanks word rest hblanks hword hrest _ ih =>
    rw [readTokens_blanks acc hblanks, hword.read hrest fun before hbefore =>
      hfirst before hbefore token rfl]
    obtain ⟨hnext, htokens⟩ := List.isChain_cons.mp hunfolded
    rw [ih (fun before hbefore => ?_) htokens]
    · simp
    · obtain rfl : token = before := by simpa using hbefore
      exact hnext

/-- What is written as a row of tokens is cut into that row again. -/
theorem tokenize_of_written {tokens : List Token} {text : List Char} (h : Written tokens text)
    (hunfolded : Unfolded tokens) : tokenize (String.ofList text) = .ok tokens := by
  rw [tokenize, String.toList_ofList]
  exact h.read nofun hunfolded

end TagTemplate.Condition
