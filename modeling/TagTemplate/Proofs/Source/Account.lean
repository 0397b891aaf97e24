import Mathlib.Data.List.Chain
import TagTemplate.Proofs.Source.Comments
import TagTemplate.Proofs.Source.Rounds

/-!
# The tokens of a source account for all of it

`Account` says what the tokens of a part of a source are to that part: they come in order and do not
overlap, what they leave out lies in comments, each one tells its place and the characters it was
read from, and texts do not stand side by side. Accounts of parts that meet make an account of both
(`Account.append`). A text run has an account and so has the lexeme of any markup, so round by round
all of a source has one: that is `tokenize_account`.
-/

namespace TagTemplate

/-- The token is a run of text. -/
def Token.isText (t : Token) : Bool :=
  match t.kind with
  | .text _ => true
  | _ => false

theorem isText_of_ne_text {kind : Token.Kind} {span : Span} {lexeme : String}
    (h : ∀ text, kind ≠ .text text) : Token.isText ⟨kind, span, lexeme⟩ = false := by
  cases kind with
  | text s => exact absurd rfl (h s)
  | _ => rfl

/-- A token as it is read from a source in which some stretches are comments. -/
structure Token.ReadFrom (source : List Char) (comments : List Stretch) (t : Token) : Prop where
  nonempty : t.span.start < t.span.stop
  /-- The line is one more than the line feeds before the token. -/
  line : t.span.line = 1 + (source.take t.span.start).count '\n'
  /-- The column is one more than the characters since the last line feed. -/
  column : t.span.column =
    1 + ((source.take t.span.start).reverse.takeWhile (· != '\n')).length
  /-- The lexeme of a tag or an interpolation is what its span holds. -/
  markup : t.isText = false → t.lexeme.toList = slice source t.span.start t.span.stop
  /-- The lexeme of a text is what its span holds, without the comments, and it is not empty. -/
  text : ∀ s, t.kind = .text s → s = t.lexeme ∧ s ≠ "" ∧
    s.toList = deleting comments t.span.start (slice source t.span.start t.span.stop)
  /-- Where a text is not a comment, no comment begins. -/
  unmarked : t.isText = true → ∀ i, t.span.start ≤ i → i < t.span.stop →
    covered comments i = false → ¬ openMark <+: source.drop i

/-- Only the comments within its span matter to a token. -/
theorem Token.ReadFrom.congr {source : List Char} {C D : List Stretch} {t : Token}
    (h : t.ReadFrom source C) (hstop : t.span.stop ≤ source.length)
    (hCD : ∀ i, t.span.start ≤ i → i < t.span.stop → covered C i = covered D i) :
    t.ReadFrom source D where
  nonempty := h.nonempty
  line := h.line
  column := h.column
  markup := h.markup
  text s hs := by
    obtain ⟨h1, h2, h3⟩ := h.text s hs
    refine ⟨h1, h2, ?_⟩
    rw [h3]
    refine deleting_congr fun j hj1 hj2 => hCD j hj1 ?_
    rw [length_slice hstop] at hj2
    omega
  unmarked ht i h1 h2 hi := h.unmarked ht i h1 h2 (by rw [hCD i h1 h2]; exact hi)

/-- The tokens and the comments of a source between two offsets. -/
structure Account (source : List Char) (a b : Nat) (tokens : List Token)
    (comments : List Stretch) : Prop extends CommentsIn source a b comments where
  read : ∀ t ∈ tokens, t.ReadFrom source comments
  token_inside : ∀ t ∈ tokens, a ≤ t.span.start ∧ t.span.stop ≤ b
  token_ordered : tokens.Pairwise fun t u => t.span.stop ≤ u.span.start
  /-- A comment is met in text: it lies within a text, or outside of all tokens. -/
  apart : ∀ c ∈ comments, ∀ t ∈ tokens, c.stop ≤ t.span.start ∨ t.span.stop ≤ c.start ∨
    (t.isText = true ∧ t.span.start ≤ c.start ∧ c.stop ≤ t.span.stop)
  /-- What no token spans is part of a comment. -/
  complete : ∀ i, a ≤ i → i < b →
    (∃ t ∈ tokens, t.span.start ≤ i ∧ i < t.span.stop) ∨ covered comments i = true
  /-- The lexemes in order are the source without its comments. -/
  lexemes : tokens.flatMap (·.lexeme.toList) = deleting comments a (slice source a b)
  alternating : tokens.IsChain fun t u => ¬ (t.isText = true ∧ u.isText = true)

namespace Account

variable {source rest : List Char} {pos : Position} {a b c : Nat} {T U : List Token}
  {C D : List Stretch}

/-- Accounts of two parts that meet make one, if no text meets a text. -/
theorem append (hT : Account source a b T C) (hU : Account source b c U D)
    (hc : c ≤ source.length)
    (hTU : ∀ t ∈ T.getLast?, ∀ u ∈ U.head?, ¬ (t.isText = true ∧ u.isText = true)) :
    Account source a c (T ++ U) (C ++ D) where
  toCommentsIn := hT.toCommentsIn.append hU.toCommentsIn
  read t ht := by
    have hbc := hU.le
    rcases List.mem_append.mp ht with h | h
    · have hin := hT.token_inside t h
      refine (hT.read t h).congr (by omega) fun i _ h2 => ?_
      rw [hU.covered_append_left (by omega)]
    · have hin := hU.token_inside t h
      refine (hU.read t h).congr (by omega) fun i h1 _ => ?_
      rw [hT.covered_append_right (by omega)]
  token_inside t ht := by
    have hab := hT.le
    have hbc := hU.le
    rcases List.mem_append.mp ht with h | h
    · have := hT.token_inside t h
      omega
    · have := hU.token_inside t h
      omega
  token_ordered := by
    rw [List.pairwise_append]
    refine ⟨hT.token_ordered, hU.token_ordered, fun t ht u hu => ?_⟩
    have h1 := hT.token_inside t ht
    have h2 := hU.token_inside u hu
    omega
  apart s hs t ht := by
    rcases List.mem_append.mp hs with hs | hs <;> rcases List.mem_append.mp ht with ht | ht
    · exact hT.apart s hs t ht
    · have h1 := hT.inside s hs
      have h2 := hU.token_inside t ht
      exact Or.inl (by omega)
    · have h1 := hU.inside s hs
      have h2 := hT.token_inside t ht
      exact Or.inr (Or.inl (by omega))
    · exact hU.apart s hs t ht
  complete i h1 h2 := by
    rw [covered_append, Bool.or_eq_true]
    by_cases hi : i < b
    · rcases hT.complete i h1 hi with ⟨t, ht, hin⟩ | h
      · exact Or.inl ⟨t, List.mem_append_left U ht, hin⟩
      · exact Or.inr (Or.inl h)
    · rcases hU.complete i (by omega) h2 with ⟨t, ht, hin⟩ | h
      · exact Or.inl ⟨t, List.mem_append_right T ht, hin⟩
      · exact Or.inr (Or.inr h)
  lexemes := by
    rw [List.flatMap_append, hT.lexemes, hU.lexemes]
    rw [hT.toCommentsIn.deleting_append_slice hU.toCommentsIn hc]
  alternating := List.isChain_append.mpr ⟨hT.alternating, hU.alternating, hTU⟩

/-- The account of an empty part. -/
theorem nil (source : List Char) (a : Nat) : Account source a a [] [] where
  toCommentsIn := .nil source (Nat.le_refl a)
  read := by simp
  token_inside := by simp
  token_ordered := .nil
  apart := by simp
  complete i h1 h2 := by omega
  lexemes := by simp [slice, deleting]
  alternating := .nil

/-- A part of which no text remains: comments only. -/
theorem ofComments (hC : TextPart source a b C) (hb : b ≤ source.length)
    (hnone : deleting C a (slice source a b) = []) : Account source a b [] C where
  toCommentsIn := hC.toCommentsIn
  read := by simp
  token_inside := by simp
  token_ordered := .nil
  apart := by simp
  complete i h1 h2 := by
    rw [deleting_eq_nil_iff, length_slice hb] at hnone
    exact Or.inr (hnone i h1 (by omega))
  lexemes := hnone.symm
  alternating := .nil

/-- A part of which some text remains: the text token spans it from the first character that
remains. -/
theorem ofText {start stop : Position} {text : List Char} (hC : TextPart source a stop.offset C)
    (hstop : stop.offset ≤ source.length)
    (htext : text = deleting C a (slice source a stop.offset)) (hne : text ≠ [])
    (hfirst : FirstKept source a stop.offset C start) :
    Account source a stop.offset
      [⟨.text (String.ofList text), .between start stop, String.ofList text⟩] C where
  toCommentsIn := hC.toCommentsIn
  read t ht := by
    rw [List.mem_singleton] at ht
    subst ht
    have hle : start.offset ≤ stop.offset := Nat.le_of_lt hfirst.lt
    refine ⟨hfirst.lt, hfirst.at_place.line_eq, hfirst.at_place.column_eq, by simp [Token.isText],
      fun s hs => ?_, fun _ i h1 h2 => hC.unmarked i (Nat.le_trans hfirst.le h1) h2⟩
    cases hs
    refine ⟨rfl, by simpa using hne, ?_⟩
    -- before the first character that remains there are only comments
    have hnone : deleting C a (slice source a start.offset) = [] := by
      rw [deleting_eq_nil_iff, length_slice (Nat.le_trans hle hstop)]
      exact fun j h1 h2 => hfirst.before j h1 (by omega)
    rw [String.toList_ofList, htext, deleting_slice C hfirst.le hle hstop, hnone]
    rfl
  token_inside t ht := by
    rw [List.mem_singleton] at ht
    subst ht
    exact ⟨hfirst.le, Nat.le_refl _⟩
  token_ordered := List.pairwise_singleton _ _
  apart c hc t ht := by
    rw [List.mem_singleton] at ht
    subst ht
    have hin := hC.inside c hc
    -- the token begins in no comment, so each comment ends before it or lies within it
    have hkept : ¬ (c.start ≤ start.offset ∧ start.offset < c.stop) := by
      intro h
      have : covered C start.offset = true := covered_iff.mpr ⟨c, hc, h⟩
      rw [hfirst.kept] at this
      cases this
    by_cases h : c.stop ≤ start.offset
    · exact Or.inl h
    · exact Or.inr (Or.inr ⟨rfl, show start.offset ≤ c.start from by omega, hin.2.2⟩)
  complete i h1 h2 := by
    by_cases hi : i < start.offset
    · exact Or.inr (hfirst.before i h1 hi)
    · exact Or.inl ⟨_, List.mem_singleton_self _, Nat.le_of_not_lt hi, h2⟩
  lexemes := by simp [htext]
  alternating := .singleton _

/-- The account of a text run. -/
theorem ofTextRun {run : TextRun} (hat : At source pos rest)
    (h : textRun [] pos rest pos = .ok run) :
    ∃ comments, Account source pos.offset run.stop.offset run.tokens comments ∧
      At source run.stop run.rest := by
  obtain ⟨C, hC, hstop, htext, -, hfirst⟩ := textPart_of_textRun hat h
  rw [List.reverse_nil, List.nil_append] at htext
  have hlen := hstop.offset_add_length
  refine ⟨C, ?_, hstop⟩
  rw [TextRun.tokens]
  by_cases hne : run.text = []
  · rw [if_pos (by simp [hne])]
    exact ofComments hC (by omega) (by rw [← htext, hne])
  · rw [if_neg (by simpa using hne)]
    exact ofText hC (by omega) htext hne (hfirst rfl hne)

/-- The account of the lexeme of a tag or an interpolation. -/
theorem ofLexeme {kind : Token.Kind} {lexeme : List Char} (hat : At source pos (lexeme ++ rest))
    (hne : lexeme ≠ []) (hkind : ∀ text, kind ≠ .text text) :
    Account source pos.offset (pos.advance lexeme).offset
      [⟨kind, .between pos (pos.advance lexeme), String.ofList lexeme⟩] [] where
  toCommentsIn := .nil source (by rw [Position.advance_offset]; omega)
  read t ht := by
    rw [List.mem_singleton] at ht
    subst ht
    have hlt : pos.offset < (pos.advance lexeme).offset := by
      have := List.length_pos_iff.mpr hne
      rw [Position.advance_offset]
      omega
    refine ⟨hlt, hat.line_eq, hat.column_eq, fun _ => ?_, fun s hs => absurd hs (hkind s), ?_⟩
    · rw [String.toList_ofList]
      exact hat.slice_eq.symm
    · intro ht
      rw [isText_of_ne_text hkind] at ht
      cases ht
  token_inside t ht := by
    rw [List.mem_singleton] at ht
    subst ht
    exact ⟨Nat.le_refl _, Nat.le_refl _⟩
  token_ordered := List.pairwise_singleton _ _
  apart := by simp
  complete i h1 h2 := Or.inl ⟨_, List.mem_singleton_self _, h1, h2⟩
  lexemes := by
    rw [deleting_nil, hat.slice_eq]
    simp
  alternating := .singleton _

end Account

/-! ## Rounds have accounts, and so have sources -/

/-- Some comments with which the tokens account for a source from an offset to its end. -/
def Accounted (source : List Char) (offset : Nat) (tokens : List Token) : Prop :=
  ∃ comments, Account source offset source.length tokens comments

/-- A tag or an interpolation in front of what is accounted for. -/
theorem Accounted.cons_lexeme {source rest lexeme : List Char} {pos : Position}
    {kind : Token.Kind} {tokens : List Token} (hat : At source pos (lexeme ++ rest))
    (hne : lexeme ≠ []) (hkind : ∀ text, kind ≠ .text text)
    (h : Accounted source (pos.advance lexeme).offset tokens) :
    Accounted source pos.offset
      (⟨kind, .between pos (pos.advance lexeme), String.ofList lexeme⟩ :: tokens) := by
  obtain ⟨C, hC⟩ := h
  refine ⟨[] ++ C, (Account.ofLexeme hat hne hkind).append hC (Nat.le_refl _) ?_⟩
  rintro t ht u - ⟨htext, -⟩
  rw [List.getLast?_singleton, Option.mem_some_iff] at ht
  rw [← ht, isText_of_ne_text hkind] at htext
  cases htext

/-- The tokens of what is left of a source account for it. -/
theorem accounted_of_itemsAt {source rest : List Char} {pos : Position} {tokens : List Token}
    (hat : At source pos rest) (h : Scanner.itemsAt rest pos = tokens.map .ok) :
    Accounted source pos.offset tokens := by
  -- By rounds: what is left after a round is shorter.
  induction hn : rest.length using Nat.strongRecOn generalizing rest pos tokens with
  | ind n ih =>
    subst hn
    rcases hr : textRun [] pos rest pos with p | run
    · rw [Scanner.itemsAt_of_error hr] at h
      cases tokens <;> cases h
    rw [Scanner.itemsAt_eq_round hr] at h
    obtain ⟨T, U, rfl, hT, hU⟩ := List.map_eq_append_iff.mp h.symm
    obtain rfl : T = run.tokens := (List.map_inj_right fun _ _ h => Except.ok.inj h).mp hT
    obtain ⟨C, hC, hstop⟩ := Account.ofTextRun hat hr
    -- it remains to account for what follows the text run
    suffices hrest : Accounted source run.stop.offset U ∧ ∀ u ∈ U.head?, u.isText = false by
      obtain ⟨⟨D, hD⟩, hU⟩ := hrest
      refine ⟨C ++ D, hC.append hD (Nat.le_refl _) fun t _ u hu hboth => ?_⟩
      rw [hU u hu] at hboth
      exact absurd hboth.2 Bool.false_ne_true
    have hmark := atMarkup_of_textRun hr
    rcases hm : run.markup with _ | markup <;> rw [hm] at hU hmark
    · cases U with
      | cons u us => cases hU
      | nil =>
        have hlen := hstop.offset_add_length
        rw [show run.rest = [] from hmark, List.length_nil] at hlen
        refine ⟨⟨[], ?_⟩, by simp⟩
        rw [← hlen]
        exact .nil source _
    · rcases Scanner.itemsFromMarkup_cases run.stop hmark with
        he | ⟨kind, lexeme, after, hrest, hne, hkind, hitems⟩
      · rw [he] at hU
        cases U <;> cases hU
      rw [hitems] at hU
      obtain ⟨u, us, rfl, hu, hus⟩ := List.map_eq_cons_iff.mp hU
      cases hu
      have hshort := Scanner.length_lt_of_round hr hrest hne
      rw [hrest] at hstop
      refine ⟨Accounted.cons_lexeme hstop hne hkind (ih _ hshort hstop.advance hus.symm rfl), ?_⟩
      rintro u hu
      cases hu
      exact isText_of_ne_text hkind

/-- The tokens of a source account for all of it. Without comments their lexemes make up the
source. -/
theorem tokenize_account {source : String} {tokens : List Token}
    (h : Scanner.tokenize source = .ok tokens) :
    ∃ comments, Account source.toList 0 source.toList.length tokens comments ∧
      (comments = [] → String.join (tokens.map (·.lexeme)) = source) := by
  rw [Scanner.tokenize_eq_ok_iff] at h
  obtain ⟨C, hC⟩ := accounted_of_itemsAt (.start source.toList) h
  refine ⟨C, hC, ?_⟩
  rintro rfl
  have hlex : tokens.flatMap (·.lexeme.toList) = source.toList := by
    rw [hC.lexemes, deleting_nil]
    exact slice_zero_length _
  rw [← String.toList_inj, String.toList_join, List.flatMap_map]
  exact hlex

/-- A comment in the middle of a text, one before a tag that hides a `>` in quotes, and the
place of what follows a line feed. -/
theorem tokenize_account_of_mixed : ∃ tokens comments,
    Scanner.tokenize "a<!--- <!--- ---> # --->b\n<!---x---><I j='>'>#k#" = .ok tokens ∧
    tokens = [
      ⟨.text "ab\n", ⟨0, 36, 1, 1⟩, "ab\n"⟩,
      ⟨.tagOpen "i" "j='>'" false, ⟨36, 45, 2, 11⟩, "<I j='>'>"⟩,
      ⟨.interpolation "k", ⟨45, 48, 2, 20⟩, "#k#"⟩] ∧
    Account "a<!--- <!--- ---> # --->b\n<!---x---><I j='>'>#k#".toList 0 48 tokens comments := by
  have h : Scanner.tokenize "a<!--- <!--- ---> # --->b\n<!---x---><I j='>'>#k#" = .ok [
      ⟨.text "ab\n", ⟨0, 36, 1, 1⟩, "ab\n"⟩,
      ⟨.tagOpen "i" "j='>'" false, ⟨36, 45, 2, 11⟩, "<I j='>'>"⟩,
      ⟨.interpolation "k", ⟨45, 48, 2, 20⟩, "#k#"⟩] := by decide +kernel
  obtain ⟨C, hC, -⟩ := tokenize_account h
  exact ⟨_, C, h, rfl, hC⟩

end TagTemplate
