import TagTemplate.Condition.Reading
import Mathlib.Data.List.Chain

/-!
# The grammar of conditions

What a condition may be is said here without a reader: which rows of tokens are phrases of which
rank, and what expression each of them says. `or` joins weaker than `and`, `and` weaker than `not`,
and `not` weaker than a comparison.

Three facts about phrases are all that the rest needs: the variables of the expression are those of
the tokens, in the same order; a phrase is not empty; and `not` never stands right after a sign of
equality, where the words would run together to one operator (`Phrase.unfolded`).
-/

namespace TagTemplate.Condition

/-- The ranks of phrases, from the weakest join to the strongest. -/
inductive Rank where
  | disjunction
  | conjunction
  | negation
  | comparison
  | operand
deriving Repr, DecidableEq

/-- The rows of tokens that are phrases of a rank, with what they say. Each rank takes in the
next stronger one. -/
inductive Phrase : Rank → List Token → Expression → Prop where
  | number (x : Float) : Phrase .operand [.number x] (.number x)
  | text (s : String) : Phrase .operand [.text s] (.text s)
  | name (name : String) : Phrase .operand [.name name] (.ofName name)
  | group {tokens : List Token} {e : Expression} (inside : Phrase .disjunction tokens e) :
      Phrase .operand (.leftParen :: (tokens ++ [.rightParen])) (.group e)
  | operand {tokens : List Token} {e : Expression} (h : Phrase .operand tokens e) :
      Phrase .comparison tokens e
  | compare {before after : List Token} {left right : Expression} (op : Comparison)
      (hleft : Phrase .operand before left) (hright : Phrase .operand after right) :
      Phrase .comparison (before ++ .comparison op :: after) (.compare op left right)
  | comparison {tokens : List Token} {e : Expression} (h : Phrase .comparison tokens e) :
      Phrase .negation tokens e
  | not {tokens : List Token} {e : Expression} (h : Phrase .negation tokens e) :
      Phrase .negation (.not :: tokens) (.not e)
  | negation {tokens : List Token} {e : Expression} (h : Phrase .negation tokens e) :
      Phrase .conjunction tokens e
  | and {before after : List Token} {left right : Expression}
      (hleft : Phrase .conjunction before left) (hright : Phrase .negation after right) :
      Phrase .conjunction (before ++ .and :: after) (.and left right)
  | conjunction {tokens : List Token} {e : Expression} (h : Phrase .conjunction tokens e) :
      Phrase .disjunction tokens e
  | or {before after : List Token} {left right : Expression}
      (hleft : Phrase .disjunction before left) (hright : Phrase .conjunction after right) :
      Phrase .disjunction (before ++ .or :: after) (.or left right)

/-- How deep `not` and parentheses nest in an expression along any path. -/
def Expression.nesting : Expression → Nat
  | .compare _ left right => max left.nesting right.nesting
  | .not e => e.nesting + 1
  | .and left right => max left.nesting right.nesting
  | .or left right => max left.nesting right.nesting
  | .group e => e.nesting + 1
  | _ => 0

@[simp] theorem Expression.nesting_ofName (name : String) :
    (Expression.ofName name).nesting = 0 := by
  unfold Expression.ofName
  dsimp only
  split_ifs <;> rfl

/-! ## Variables -/

/-- A name refers to the variable that its expression holds, if that holds one. -/
theorem variables_ofName (name : String) :
    [Token.name name].filterMap Token.variable? = (Expression.ofName name).variables := by
  rw [List.filterMap_cons, List.filterMap_nil]
  unfold Token.variable?
  dsimp only
  split
  next hnone =>
    split at hnone
    next => cases hnone
    next hother =>
      unfold Expression.ofName at hother ⊢
      dsimp only at hother ⊢
      split_ifs at hother ⊢
      · rfl
      · rfl
      · exact absurd rfl (hother name)
  next v hsome =>
    split at hsome
    next hv =>
      cases hsome
      rw [hv]
      rfl
    next => cases hsome

/-- The variables of a phrase are those of its tokens, as they come. -/
theorem Phrase.variables {rank : Rank} {tokens : List Token} {e : Expression}
    (h : Phrase rank tokens e) : tokens.filterMap Token.variable? = e.variables := by
  induction h with
  | number x => rfl
  | text s => rfl
  | name name => exact variables_ofName name
  | group _ ih =>
    show List.filterMap Token.variable? (_ ++ [.rightParen]) = _
    rw [List.filterMap_append, ih]
    exact List.append_nil _
  | operand _ ih => exact ih
  | compare op _ _ ihl ihr =>
    rw [List.filterMap_append, ihl]
    exact congrArg _ ihr
  | comparison _ ih => exact ih
  | not _ ih => exact ih
  | negation _ ih => exact ih
  | and _ _ ihl ihr =>
    rw [List.filterMap_append, ihl]
    exact congrArg _ ihr
  | conjunction _ ih => exact ih
  | or _ _ ihl ihr =>
    rw [List.filterMap_append, ihl]
    exact congrArg _ ihr

/-! ## The ends of a phrase -/

theorem Phrase.ne_nil {rank : Rank} {tokens : List Token} {e : Expression}
    (h : Phrase rank tokens e) : tokens ≠ [] := by
  induction h with
  | number | text | name | group | compare | not | and | or => simp
  | operand _ ih | comparison _ ih | negation _ ih | conjunction _ ih => exact ih

/-- No operand begins with `not`. -/
theorem Phrase.head?_ne {tokens : List Token} {e : Expression} (h : Phrase .operand tokens e) :
    tokens.head? ≠ some .not := by
  cases h <;> simp

/-- Two tokens that stay two when they are written one after the other. -/
def StayApart (before after : Token) : Prop := before = .comparison .equal → after ≠ .not

/-- No `not` stands right after a sign of equality. -/
def Unfolded (tokens : List Token) : Prop := tokens.IsChain StayApart

/-- Two rows with a separator between them that is neither `not` nor a sign of equality. -/
theorem Unfolded.join {before after : List Token} {separator : Token} (hbefore : Unfolded before)
    (hafter : Unfolded after) (hleft : separator ≠ .not)
    (hright : ∀ token ∈ after.head?, StayApart separator token) :
    Unfolded (before ++ separator :: after) := by
  apply List.isChain_append.mpr
  refine ⟨hbefore, List.isChain_cons.mpr ⟨hright, hafter⟩, ?_⟩
  intro last _ first hfirst _
  obtain rfl : separator = first := by simpa using hfirst
  exact hleft

/-- In a phrase `not` never stands right after a sign of equality. -/
theorem Phrase.unfolded {rank : Rank} {tokens : List Token} {e : Expression}
    (h : Phrase rank tokens e) : Unfolded tokens := by
  induction h with
  | number | text | name => exact List.isChain_singleton _
  | group inside ih =>
    have hclosed : Unfolded (_ ++ .rightParen :: []) :=
      ih.join List.isChain_nil (by simp) (by simp)
    exact List.isChain_cons.mpr ⟨fun _ _ => nofun, hclosed⟩
  | operand _ ih | comparison _ ih | negation _ ih | conjunction _ ih => exact ih
  | not _ ih => exact List.isChain_cons.mpr ⟨fun _ _ => nofun, ih⟩
  | compare op _ hright ihl ihr =>
    refine ihl.join ihr (by simp) ?_
    rintro token htoken _ rfl
    exact hright.head?_ne htoken
  | and _ _ ihl ihr => exact ihl.join ihr (by simp) fun _ _ => nofun
  | or _ _ ihl ihr => exact ihl.join ihr (by simp) fun _ _ => nofun

end TagTemplate.Condition
