import TagTemplate.Proofs.Condition.Grammar

/-!
# The readers read the grammar

The reader of each rank reads a phrase of that rank off any row of tokens, up to a token that cannot
carry the phrase on (`Phrase.read`), and it reads nothing else (`phrase_of_reader`). Both are said
of the readers that allow `n` levels of `not` and parentheses: they read the phrases that nest at
most `n` deep, however many of them stand side by side.
-/

namespace TagTemplate.Condition

/-- The readers one level deeper than those that allow `n` levels. -/
def Level.under : Nat → Level
  | 0 => .tooDeep
  | n + 1 => .allowing n

theorem Level.allowing_eq (n : Nat) : Level.allowing n = .around (.under n) := by
  cases n <;> rfl

/-- The reader of the phrases of a rank that nest at most `n` deep. -/
def Rank.reader (n : Nat) : Rank → Reader
  | .disjunction => (Level.allowing n).disjunction
  | .conjunction => readJoined (Level.allowing n).negation Token.isAnd .and
  | .negation => (Level.allowing n).negation
  | .comparison => readComparison (Level.under n).disjunction
  | .operand => readOperand (Level.under n).disjunction

theorem reader_negation (n : Nat) :
    Rank.negation.reader n = readNegation (Level.under n).negation (Level.under n).disjunction := by
  rw [Rank.reader, Level.allowing_eq]
  rfl

theorem reader_disjunction (n : Nat) :
    Rank.disjunction.reader n = readJoined (Rank.conjunction.reader n) Token.isOr .or := by
  rw [Rank.reader, Rank.reader, Level.allowing_eq]
  rfl

/-! ## Rows of joined phrases -/

section
variable {read : Reader} {separates : Token → Bool} {join : Expression → Expression → Expression}
variable {tokens rest after : List Token} {left right : Expression}

/-- Reading joined expressions off `tokens` has come to `rest`, with `left` read so far. -/
def ComesTo (read : Reader) (separates : Token → Bool)
    (join : Expression → Expression → Expression) (tokens : List Token) (left : Expression)
    (rest : List Token) : Prop :=
  ∃ clock : List Token, rest.length ≤ clock.length ∧
    readJoined read separates join tokens = readMore read separates join clock left rest

/-- The first expression has been read. -/
theorem comesTo_first (h : read tokens = .ok (left, rest)) :
    ComesTo read separates join tokens left rest :=
  ⟨rest, le_rfl, by rw [readJoined, h]⟩

/-- A separator and one more expression are read. -/
theorem ComesTo.more {separator : Token}
    (h : ComesTo read separates join tokens left (separator :: (after ++ rest)))
    (hseparator : separates separator = true) (hread : read (after ++ rest) = .ok (right, rest)) :
    ComesTo read separates join tokens (join left right) rest := by
  obtain ⟨clock, hclock, h⟩ := h
  cases clock with
  | nil => simp at hclock
  | cons tick clock =>
    refine ⟨clock, ?_, ?_⟩
    · simp only [List.length_cons, List.length_append] at hclock
      omega
    · rw [h, readMore, if_pos hseparator, hread]

/-- Where no separator comes, reading ends. -/
theorem ComesTo.ends (h : ComesTo read separates join tokens left rest)
    (hend : ∀ token ∈ rest.head?, separates token = false) :
    readJoined read separates join tokens = .ok (left, rest) := by
  obtain ⟨clock, _, h⟩ := h
  rw [h]
  cases clock with
  | nil => rw [readMore]
  | cons tick clock =>
    cases rest with
    | nil => rw [readMore]
    | cons token rest => rw [readMore, if_neg (by simp [hend token rfl])]

end

/-! ## Every phrase is read -/

/-- Whether a token after a phrase of the rank carries that phrase on. -/
def Rank.goesOn : Rank → Token → Bool
  | .operand, _ => false
  | .comparison, .comparison _ => true
  | .negation, .comparison _ => true
  | .conjunction, .comparison _ => true
  | .conjunction, .and => true
  | .disjunction, .comparison _ => true
  | .disjunction, .and => true
  | .disjunction, .or => true
  | _, _ => false

/-- A phrase of the rank cannot go on into the row. -/
def Rank.StopsAt (rank : Rank) (rest : List Token) : Prop :=
  ∀ token ∈ rest.head?, rank.goesOn token = false

theorem Rank.stopsAt_nil (rank : Rank) : rank.StopsAt [] := nofun

theorem Rank.stopsAt_cons {rank : Rank} {token : Token} (h : rank.goesOn token = false)
    (rest : List Token) : rank.StopsAt (token :: rest) := by
  intro head hhead
  obtain rfl : token = head := by simpa using hhead
  exact h

/-- What ends a phrase of one rank ends a phrase of another that goes on at fewer tokens. -/
theorem Rank.StopsAt.mono {rank other : Rank} {rest : List Token} (h : rank.StopsAt rest)
    (hgoes : ∀ token, other.goesOn token = true → rank.goesOn token = true) :
    other.StopsAt rest := by
  intro token htoken
  cases hon : other.goesOn token with
  | false => rfl
  | true => exact absurd (hgoes token hon) (by simp [h token htoken])

/-- The readers that allow `n` levels read `tokens`, in front of any row at which the phrase ends,
as `e`. A reader of joined phrases has then come to that row, where another phrase may follow. -/
def Reads (n : Nat) : Rank → List Token → Expression → Prop
  | .disjunction, tokens, e => ∀ rest, Rank.conjunction.StopsAt rest →
      ComesTo (Rank.conjunction.reader n) Token.isOr .or (tokens ++ rest) e rest
  | .conjunction, tokens, e => ∀ rest, Rank.negation.StopsAt rest →
      ComesTo (Rank.negation.reader n) Token.isAnd .and (tokens ++ rest) e rest
  | rank, tokens, e => ∀ rest, rank.StopsAt rest → rank.reader n (tokens ++ rest) = .ok (e, rest)

theorem Reads.conjunction {n : Nat} {tokens : List Token} {e : Expression}
    (h : Reads n .conjunction tokens e) (rest : List Token)
    (hstop : Rank.conjunction.StopsAt rest) :
    Rank.conjunction.reader n (tokens ++ rest) = .ok (e, rest) := by
  refine (h rest (hstop.mono ?_)).ends ?_
  · intro token; cases token <;> simp [Rank.goesOn]
  · intro token htoken
    have := hstop token htoken
    cases token <;> simp_all [Rank.goesOn, Token.isAnd]

theorem Reads.disjunction {n : Nat} {tokens : List Token} {e : Expression}
    (h : Reads n .disjunction tokens e) (rest : List Token)
    (hstop : Rank.disjunction.StopsAt rest) :
    Rank.disjunction.reader n (tokens ++ rest) = .ok (e, rest) := by
  rw [reader_disjunction]
  refine (h rest (hstop.mono ?_)).ends ?_
  · intro token; cases token <;> simp [Rank.goesOn]
  · intro token htoken
    have := hstop token htoken
    cases token <;> simp_all [Rank.goesOn, Token.isOr]

/-- Parentheses are read where one more level is allowed. -/
theorem readOperand_group {inner : Reader} {tokens : List Token} {e : Expression}
    {rest : List Token} (h : inner (tokens ++ .rightParen :: rest) = .ok (e, .rightParen :: rest)) :
    readOperand inner ((.leftParen :: (tokens ++ [.rightParen])) ++ rest) =
      .ok (.group e, rest) := by
  rw [List.cons_append, List.append_assoc, List.singleton_append]
  simp only [readOperand, h]

/-- An operand with no operator after it is a comparison by itself. -/
theorem readComparison_operand {inner : Reader} {tokens rest : List Token} {e : Expression}
    (h : readOperand inner tokens = .ok (e, rest)) (hstop : Rank.comparison.StopsAt rest) :
    readComparison inner tokens = .ok (e, rest) := by
  rw [readComparison, h]
  cases rest with
  | nil => rfl
  | cons token rest =>
    have := hstop token rfl
    cases token <;> simp_all [Rank.goesOn]

theorem readComparison_compare {inner : Reader} {tokens after rest : List Token}
    {left right : Expression} {op : Comparison}
    (hleft : readOperand inner tokens = .ok (left, .comparison op :: after))
    (hright : readOperand inner after = .ok (right, rest)) :
    readComparison inner tokens = .ok (.compare op left right, rest) := by
  simp only [readComparison, hleft, hright]

/-- Where the first token is not `not`, a negation is a comparison. -/
theorem readNegation_comparison {innerNegation inner : Reader} {tokens : List Token}
    (h : tokens.head? ≠ some .not) :
    readNegation innerNegation inner tokens = readComparison inner tokens := by
  unfold readNegation
  split
  · simp at h
  · rfl

theorem Phrase.comparison_head?_ne {tokens : List Token} {e : Expression}
    (h : Phrase .comparison tokens e) (rest : List Token) :
    (tokens ++ rest).head? ≠ some .not := by
  cases h with
  | operand h =>
    rw [List.head?_append_of_ne_nil _ h.ne_nil]
    exact h.head?_ne
  | compare op hleft hright =>
    rw [List.append_assoc, List.head?_append_of_ne_nil _ hleft.ne_nil]
    exact hleft.head?_ne

/-- A phrase that nests no deeper than is allowed is read. The induction is on the phrase; only
`not` and parentheses take a level of those that are left. -/
theorem Phrase.reads {rank : Rank} {tokens : List Token} {e : Expression}
    (h : Phrase rank tokens e) : ∀ n, e.nesting ≤ n → Reads n rank tokens e := by
  induction h with
  | number x => intro n _ rest _; rfl
  | text s => intro n _ rest _; rfl
  | name name => intro n _ rest _; rfl
  | group inside ih =>
    intro n hn rest _
    cases n with
    | zero => simp [Expression.nesting] at hn
    | succ n =>
      apply readOperand_group
      have hinside := ih n (by simpa [Expression.nesting] using hn)
      exact hinside.disjunction _ (Rank.stopsAt_cons rfl rest)
  | operand h ih =>
    intro n hn rest hstop
    exact readComparison_operand (ih n hn rest (hstop.mono (by simp [Rank.goesOn]))) hstop
  | @compare before after left right op hleft hright ihl ihr =>
    intro n hn rest _
    rw [Expression.nesting] at hn
    have hfirst := ihl n (by omega) (.comparison op :: (after ++ rest)) (Rank.stopsAt_cons rfl _)
    have hsecond := ihr n (by omega) rest fun _ _ => rfl
    rw [List.append_assoc]
    exact readComparison_compare hfirst hsecond
  | comparison h ih =>
    intro n hn rest hstop
    rw [reader_negation, readNegation_comparison (h.comparison_head?_ne rest)]
    exact ih n hn rest (hstop.mono (by intro token; cases token <;> simp [Rank.goesOn]))
  | not h ih =>
    intro n hn rest hstop
    cases n with
    | zero => simp [Expression.nesting] at hn
    | succ n =>
      have hinner : (Level.under (n + 1)).negation _ = _ :=
        ih n (by simpa [Expression.nesting] using hn) rest hstop
      rw [reader_negation, List.cons_append, readNegation, hinner]
  | negation h ih =>
    intro n hn rest hstop
    exact comesTo_first (ih n hn rest hstop)
  | @and before after left right hleft hright ihl ihr =>
    intro n hn rest hstop
    rw [Expression.nesting] at hn
    rw [List.append_assoc]
    have hbegun := ihl n (by omega) (.and :: (after ++ rest)) (Rank.stopsAt_cons rfl _)
    exact hbegun.more rfl (ihr n (by omega) rest hstop)
  | conjunction h ih =>
    intro n hn rest hstop
    exact comesTo_first ((ih n hn).conjunction rest hstop)
  | @or before after left right hleft hright ihl ihr =>
    intro n hn rest hstop
    rw [Expression.nesting] at hn
    rw [List.append_assoc]
    have hbegun := ihl n (by omega) (.or :: (after ++ rest)) (Rank.stopsAt_cons rfl _)
    exact hbegun.more rfl ((ihr n (by omega)).conjunction rest hstop)

/-- The grammar is unambiguous: a row of tokens says one thing. -/
theorem Phrase.unique {tokens : List Token} {e other : Expression}
    (h : Phrase .disjunction tokens e) (hother : Phrase .disjunction tokens other) :
    e = other := by
  have hread := (h.reads (max e.nesting other.nesting) (le_max_left _ _)).disjunction []
    (Rank.stopsAt_nil _)
  have hagain := (hother.reads (max e.nesting other.nesting) (le_max_right _ _)).disjunction []
    (Rank.stopsAt_nil _)
  rw [hread] at hagain
  cases hagain
  rfl

/-- A whole condition that is a disjunction is read as what it says. -/
theorem readAll_of_phrase {tokens : List Token} {e : Expression}
    (h : Phrase .disjunction tokens e) (hnesting : e.nesting ≤ maxNesting) :
    readAll tokens = .ok (e, []) := by
  have hread := (h.reads maxNesting hnesting).disjunction [] (Rank.stopsAt_nil _)
  rw [List.append_nil, Rank.reader] at hread
  rw [readAll, hread]

/-! ## Nothing else is read -/

/-- Whatever the reader reads is a phrase of the rank that nests less than `n` deep. -/
def OnlyReads (read : Reader) (rank : Rank) (n : Nat) : Prop :=
  ∀ ⦃tokens e rest⦄, read tokens = .ok (e, rest) →
    ∃ front, tokens = front ++ rest ∧ Phrase rank front e ∧ e.nesting < n

section
variable {n : Nat} {innerNegation inner : Reader}

theorem readOperand_onlyReads (hinner : OnlyReads inner .disjunction n) :
    OnlyReads (readOperand inner) .operand (n + 1) := by
  intro tokens e rest h
  unfold readOperand at h
  split at h
  · cases h
  · cases h
    exact ⟨[_], rfl, .number _, by simp [Expression.nesting]⟩
  · cases h
    exact ⟨[_], rfl, .text _, by simp [Expression.nesting]⟩
  · cases h
    exact ⟨[_], rfl, .name _, by simp⟩
  · split at h
    next e rest hread =>
      cases h
      obtain ⟨front, rfl, hphrase, hn⟩ := hinner hread
      exact ⟨_, by simp, .group hphrase, by simpa [Expression.nesting] using hn⟩
    next => cases h
    next => cases h
  · cases h

theorem readComparison_onlyReads (hinner : OnlyReads inner .disjunction n) :
    OnlyReads (readComparison inner) .comparison (n + 1) := by
  intro tokens e rest h
  unfold readComparison at h
  split at h
  next left op after hleft =>
    split at h
    next right rest hright =>
      cases h
      obtain ⟨front, rfl, hfront, hl⟩ := readOperand_onlyReads hinner hleft
      obtain ⟨back, rfl, hback, hr⟩ := readOperand_onlyReads hinner hright
      refine ⟨_, by simp, .compare op hfront hback, ?_⟩
      rw [Expression.nesting]
      omega
    next => cases h
  next =>
    obtain ⟨front, htokens, hfront, hn⟩ := readOperand_onlyReads hinner h
    exact ⟨front, htokens, .operand hfront, hn⟩

theorem readNegation_onlyReads (hnegation : OnlyReads innerNegation .negation n)
    (hinner : OnlyReads inner .disjunction n) :
    OnlyReads (readNegation innerNegation inner) .negation (n + 1) := by
  intro tokens e rest h
  unfold readNegation at h
  split at h
  · split at h
    next e rest hread =>
      cases h
      obtain ⟨front, rfl, hphrase, hn⟩ := hnegation hread
      exact ⟨_, by simp, .not hphrase, by simpa [Expression.nesting] using hn⟩
    next => cases h
  · obtain ⟨front, htokens, hfront, hn⟩ := readComparison_onlyReads hinner h
    exact ⟨front, htokens, .comparison hfront, hn⟩

end

section
variable {n : Nat} {read : Reader} {part whole : Rank} {separates : Token → Bool}
variable {join : Expression → Expression → Expression}

/-- A way to join phrases of one rank into a phrase of a weaker one. -/
structure Joins (part whole : Rank) (separates : Token → Bool)
    (join : Expression → Expression → Expression) : Prop where
  first : ∀ {tokens e}, Phrase part tokens e → Phrase whole tokens e
  more : ∀ {before after left right separator}, separates separator = true →
    Phrase whole before left → Phrase part after right →
    Phrase whole (before ++ separator :: after) (join left right)
  nesting : ∀ left right, (join left right).nesting = max left.nesting right.nesting

theorem joins_and : Joins .negation .conjunction Token.isAnd .and where
  first := .negation
  more {_ _ _ _ separator} hseparator hleft hright := by
    cases separator <;> simp [Token.isAnd] at hseparator
    exact .and hleft hright
  nesting _ _ := rfl

theorem joins_or : Joins .conjunction .disjunction Token.isOr .or where
  first := .conjunction
  more {_ _ _ _ separator} hseparator hleft hright := by
    cases separator <;> simp [Token.isOr] at hseparator
    exact .or hleft hright
  nesting _ _ := rfl

/-- Reading on lengthens the phrase read so far. -/
theorem readMore_phrase (hjoins : Joins part whole separates join)
    (hread : OnlyReads read part n) {clock : List Token} {left e : Expression}
    {tokens rest : List Token} (h : readMore read separates join clock left tokens = .ok (e, rest))
    {front : List Token} (hfront : Phrase whole front left) (hleft : left.nesting < n) :
    ∃ more, tokens = more ++ rest ∧ Phrase whole (front ++ more) e ∧ e.nesting < n := by
  induction clock generalizing left tokens front with
  | nil =>
    cases h
    exact ⟨[], rfl, by rwa [List.append_nil], hleft⟩
  | cons tick clock ih =>
    cases tokens with
    | nil =>
      cases h
      exact ⟨[], rfl, by rwa [List.append_nil], hleft⟩
    | cons token tokens =>
      rw [readMore] at h
      split_ifs at h with hseparator
      · split at h
        next right after hright =>
          obtain ⟨part, rfl, hpart, hnesting⟩ := hread hright
          have hlonger := hjoins.more hseparator hfront hpart
          have hboth : (join left right).nesting < n := by rw [hjoins.nesting]; omega
          obtain ⟨more, rfl, hmore, he⟩ := ih h hlonger hboth
          exact ⟨token :: (part ++ more), by simp, by simpa using hmore, he⟩
        next => cases h
      · cases h
        exact ⟨[], rfl, by rwa [List.append_nil], hleft⟩

theorem readJoined_onlyReads (hjoins : Joins part whole separates join)
    (hread : OnlyReads read part n) : OnlyReads (readJoined read separates join) whole n := by
  intro tokens e rest h
  unfold readJoined at h
  split at h
  next left after hleft =>
    obtain ⟨front, rfl, hfront, hnesting⟩ := hread hleft
    obtain ⟨more, rfl, hmore, he⟩ := readMore_phrase hjoins hread h (hjoins.first hfront) hnesting
    exact ⟨front ++ more, by simp, hmore, he⟩
  next => cases h

end

/-- A level reads only phrases, one level deeper than those of the level below it. -/
theorem around_onlyReads {n : Nat} {deeper : Level}
    (hnegation : OnlyReads deeper.negation .negation n)
    (hdisjunction : OnlyReads deeper.disjunction .disjunction n) :
    OnlyReads (Level.around deeper).negation .negation (n + 1) ∧
      OnlyReads (Level.around deeper).disjunction .disjunction (n + 1) := by
  have houter := readNegation_onlyReads hnegation hdisjunction
  exact ⟨houter, readJoined_onlyReads joins_or (readJoined_onlyReads joins_and houter)⟩

theorem allowing_onlyReads (n : Nat) :
    OnlyReads (Level.allowing n).negation .negation (n + 1) ∧
      OnlyReads (Level.allowing n).disjunction .disjunction (n + 1) := by
  induction n with
  | zero => exact @around_onlyReads 0 .tooDeep nofun nofun
  | succ n ih => exact around_onlyReads ih.1 ih.2

/-- Whatever is read to its end is a disjunction that nests no deeper than is allowed. -/
theorem phrase_of_readAll {tokens rest : List Token} {e : Expression}
    (h : readAll tokens = .ok (e, rest)) :
    rest = [] ∧ Phrase .disjunction tokens e ∧ e.nesting ≤ maxNesting := by
  unfold readAll at h
  split at h
  next => cases h
  next hnone =>
    obtain ⟨front, rfl, hphrase, hnesting⟩ := (allowing_onlyReads maxNesting).2 h
    cases rest with
    | nil => exact ⟨rfl, by rwa [List.append_nil], by omega⟩
    | cons token rest => exact absurd h (hnone e token rest)

end TagTemplate.Condition
