import TagTemplate.Proofs.Condition.Reading
import TagTemplate.Proofs.Condition.Writing

/-!
# What a condition evaluates to

A condition has a truth value exactly when its tokens are a disjunction of the grammar that nests no
deeper than is allowed, and when every variable in it is bound; the truth value is then that of the
expression the grammar gives (`evaluate_grammar`). Both sides of `and` and `or` count: an unbound
variable is found wherever it stands.
-/

namespace TagTemplate.Condition

variable {scope : Scope} {source : String} {tokens : List Token} {e : Expression}

/-- The truth value of an expression, or its first variable that is not bound. -/
def Expression.outcome (scope : Scope) (e : Expression) : Except Failure Bool :=
  match e.variables.find? (!scope.contains ·) with
  | some name => .error (.undefined name)
  | none => .ok (e.value scope).isTruthy

/-- A condition whose tokens are a disjunction evaluates as what the disjunction says. -/
theorem evaluate_of_phrase (htokens : tokenize source = .ok tokens)
    (h : Phrase .disjunction tokens e) (hnesting : e.nesting ≤ maxNesting) :
    evaluate source scope = e.outcome scope := by
  have hread := readAll_of_phrase h hnesting
  have hfirst : firstUnbound? scope (tokens.take (tokens.length - 0)) =
      e.variables.find? (!scope.contains ·) := by
    rw [Nat.sub_zero, List.take_length, firstUnbound?, h.variables]
  unfold evaluate Expression.outcome
  rw [htokens]
  cases tokens with
  | nil => exact absurd rfl h.ne_nil
  | cons token tokens =>
    cases hunbound : e.variables.find? (!scope.contains ·) with
    | none => simp only [hread, List.length_nil, hfirst, hunbound]
    | some name => simp only [hread, List.length_nil, hfirst, hunbound]

/-- A condition that has a truth value is a disjunction. -/
theorem phrase_of_evaluate {b : Bool} (h : evaluate source scope = .ok b) :
    ∃ tokens e, tokenize source = .ok tokens ∧ Phrase .disjunction tokens e ∧
      e.nesting ≤ maxNesting := by
  unfold evaluate at h
  split at h
  next => cases h
  next => cases h
  next tokens _ htokens =>
    cases hread : readAll tokens with
    | ok read =>
      obtain ⟨e, rest⟩ := read
      obtain ⟨_, hphrase, hnesting⟩ := phrase_of_readAll hread
      exact ⟨tokens, e, htokens, hphrase, hnesting⟩
    | error fault =>
      simp only [hread] at h
      split at h <;> cases h

/-- However a disjunction of the grammar is written, its text evaluates to the truth value of what
it says, or to the first of its variables that is not bound. And only such texts have a truth
value. -/
theorem evaluate_grammar (scope : Scope) :
    (∀ tokens e text, Phrase .disjunction tokens e → e.nesting ≤ maxNesting →
      Written tokens text → evaluate (String.ofList text) scope = e.outcome scope) ∧
    (∀ source b, evaluate source scope = .ok b →
      ∃ tokens e, tokenize source = .ok tokens ∧ Phrase .disjunction tokens e ∧
        e.nesting ≤ maxNesting ∧ e.outcome scope = .ok b) := by
  constructor
  · intro tokens e text hphrase hnesting hwritten
    exact evaluate_of_phrase (tokenize_of_written hwritten hphrase.unfolded) hphrase hnesting
  · intro source b h
    obtain ⟨tokens, e, htokens, hphrase, hnesting⟩ := phrase_of_evaluate h
    rw [evaluate_of_phrase htokens hphrase hnesting] at h
    exact ⟨tokens, e, htokens, hphrase, hnesting, h⟩

/-- A condition with words in mixed case, both kinds of names, a doubled quote and `is not`, where
`c` is not bound; and one that has a truth value. -/
theorem evaluate_grammar_mixedCase :
    evaluate " NOT ( a Is  nOt #b# ) || 'it''s' contains c"
      (.ofList [("a", .bool true), ("b", .bool true)]) = .error (.undefined "c") ∧
    ∃ tokens e, tokenize " NOT a" = .ok tokens ∧ Phrase .disjunction tokens e ∧
      e.outcome (.ofList [("a", .bool true)]) = .ok false := by
  have hspace : Blank [' '] := by simp [Blank, Text.isBlank]
  have separated : ∀ rest, Separated (' ' :: rest) := by simp [Separated, Text.isBlank]
  have next : ∀ {token tokens word rest}, Spells token word → Written tokens (' ' :: rest) →
      Written (token :: tokens) (' ' :: (word ++ ' ' :: rest)) :=
    fun hword hrest => .cons hspace hword (separated _) hrest
  have last : ∀ {token word}, Spells token word → Written [token] (' ' :: (word ++ [])) :=
    fun hword => .cons hspace hword (by simp [Separated]) (.nil (List.forall_mem_nil _))
  have hnot : Spells .not ['N', 'O', 'T'] :=
    .keyword (show (Token.not, "not") ∈ keywords by simp [keywords]) (by decide)
  have ha : Spells (.name "a") ['a'] := .name (by decide) (List.forall_mem_nil _) (by decide)
  have hequal : Spells (.comparison .equal) ['I', 's'] :=
    .keyword (show (Token.comparison .equal, "is") ∈ keywords by simp [keywords]) (by decide)
  have hisNot : Spells (.comparison .notEqual) ['I', 's', ' ', ' ', 'n', 'O', 't'] :=
    hequal.isNot (List.cons_ne_nil ' ' [' ']) (by simp [Blank, Text.isBlank])
      (show Text.foldAscii (String.ofList ['n', 'O', 't']) = "not" by decide)
  have hb : Spells (.name "b") ['#', 'b', '#'] := .marked (show '#' ∉ ['b'] by decide)
  have htext : Spells (.text "it's") ['\'', 'i', 't', '\'', '\'', 's', '\''] :=
    .quoted (Or.inr rfl) ['i', 't', '\'', 's']
  have hcontains : Spells (.comparison .contains) "contains".toList :=
    .keyword (show (_, "contains") ∈ keywords by simp [keywords]) (by decide)
  have hopen : Spells .leftParen ['('] := .sign (show (_, "(") ∈ signs by simp [signs])
  have hclose : Spells .rightParen [')'] := .sign (show (_, ")") ∈ signs by simp [signs])
  have hor : Spells .or ['|', '|'] := .sign (show (_, "||") ∈ signs by simp [signs])
  have hc : Spells (.name "c") ['c'] := .name (by decide) (List.forall_mem_nil _) (by decide)
  have hwritten := next hnot (next hopen (next ha (next hisNot (next hb (next hclose (next hor
    (next htext (next hcontains (last hc)))))))))
  have hinside := Phrase.compare .notEqual (.name "a") (.name "b")
  have hgroup := Phrase.group (.conjunction (.negation (.comparison hinside)))
  have hleft := Phrase.not (.comparison (.operand hgroup))
  have hright := Phrase.compare .contains (.text "it's") (.name "c")
  have hphrase := Phrase.or (.conjunction (.negation hleft)) (.negation (.comparison hright))
  have hnegation := Phrase.not (.comparison (.operand (.name "a")))
  have hshort : evaluate " NOT a" (.ofList [("a", .bool true)]) = .ok false :=
    (evaluate_grammar _).1 _ _ _ (.conjunction (.negation hnegation)) (by decide)
      (next hnot (last ha))
  obtain ⟨tokens, e, htokens, hphrase', -, houtcome⟩ := (evaluate_grammar _).2 _ _ hshort
  exact ⟨(evaluate_grammar _).1 _ _ _ hphrase (by decide) hwritten, tokens, e, htokens, hphrase',
    houtcome⟩

end TagTemplate.Condition
