import TagTemplate.Condition.Expression

/-!
# Reading conditions

The grammar, from the weakest join to the strongest:

* a disjunction is conjunctions joined by `or`;
* a conjunction is negations joined by `and`;
* a negation is `not` before a negation, or a comparison;
* a comparison is an operand, or two operands with an operator between them;
* an operand is a numeral, a text, a name, or a disjunction in parentheses.

What `not` and parentheses enclose lies one level deeper, and at most 64 levels are allowed. So a
reader is made level by level from the readers one level deeper.
-/

namespace TagTemplate.Condition

/-- Reads an expression off the head of a row of tokens and returns the rest. A fault comes with
the tokens not read yet. -/
abbrev Reader := List Token → Except (Fault × List Token) (Expression × List Token)

/-- Reads an operand; `inner` reads what parentheses enclose. -/
def readOperand (inner : Reader) : Reader
  | [] => .error (.unexpectedEnd, [])
  | .number x :: rest => .ok (.number x, rest)
  | .text s :: rest => .ok (.text s, rest)
  | .name name :: rest => .ok (.ofName name, rest)
  | .leftParen :: rest =>
    match inner rest with
    | .ok (e, .rightParen :: rest) => .ok (.group e, rest)
    | .ok (_, rest) => .error (.expectedRightParen, rest)
    | .error e => .error e
  | token :: rest => .error (.unexpectedToken token, rest)

/-- Reads a comparison, or an operand alone. -/
def readComparison (inner : Reader) : Reader := fun tokens =>
  match readOperand inner tokens with
  | .ok (left, .comparison op :: rest) =>
    match readOperand inner rest with
    | .ok (right, rest) => .ok (.compare op left right, rest)
    | .error e => .error e
  | result => result

/-- Reads a negation; `innerNegation` reads what follows a `not`. -/
def readNegation (innerNegation inner : Reader) : Reader
  | .not :: rest =>
    match innerNegation rest with
    | .ok (e, rest) => .ok (.not e, rest)
    | .error e => .error e
  | tokens => readComparison inner tokens

/-- Reads on after the expressions read so far, while a separator comes. Each takes a token, so
a `clock` as long as the tokens left does not run out before them. -/
def readMore (read : Reader) (separates : Token → Bool)
    (join : Expression → Expression → Expression) :
    (clock : List Token) → Expression → Reader
  | [], left, tokens => .ok (left, tokens)
  | _ :: _, left, [] => .ok (left, [])
  | _ :: clock, left, token :: rest =>
    if separates token then
      match read rest with
      | .ok (right, rest) => readMore read separates join clock (join left right) rest
      | .error e => .error e
    else .ok (left, token :: rest)

/-- Reads one or more expressions with separators between them, and joins them from the left. -/
def readJoined (read : Reader) (separates : Token → Bool)
    (join : Expression → Expression → Expression) : Reader := fun tokens =>
  match read tokens with
  | .ok (left, rest) => readMore read separates join rest left rest
  | .error e => .error e

/-- Whether the token is `and`. -/
def Token.isAnd : Token → Bool
  | .and => true
  | _ => false

/-- Whether the token is `or`. -/
def Token.isOr : Token → Bool
  | .or => true
  | _ => false

/-- The two readers of one level that the level around it needs. -/
structure Level where
  negation : Reader
  disjunction : Reader

/-- The readers around those of a deeper level. -/
def Level.around (deeper : Level) : Level :=
  let negation := readNegation deeper.negation deeper.disjunction
  let conjunction := readJoined negation Token.isAnd .and
  ⟨negation, readJoined conjunction Token.isOr .or⟩

/-- Where no level may follow. -/
def Level.tooDeep : Level :=
  ⟨fun tokens => .error (.nestedTooDeeply, tokens), fun tokens => .error (.nestedTooDeeply, tokens)⟩

/-- The readers that allow so many levels below them. -/
def Level.allowing : Nat → Level
  | 0 => .around .tooDeep
  | n + 1 => .around (.allowing n)

/-- How deep `not` and parentheses may nest. -/
def maxNesting : Nat := 64

/-- Reads a whole condition. -/
def readAll : Reader := fun tokens =>
  match (Level.allowing maxNesting).disjunction tokens with
  | .ok (_, token :: rest) => .error (.unexpectedToken token, token :: rest)
  | result => result

/-! ## Evaluation -/

/-- Why a condition has no truth value. -/
inductive Failure where
  | malformed (fault : Fault)
  | undefined (name : String)
deriving Repr

def Failure.message : Failure → String
  | .malformed fault => fault.message
  | .undefined name => "undefined variable '" ++ name ++ "'"

/-- The variable that a token refers to. -/
def Token.variable? : Token → Option String
  | .name word =>
    match Expression.ofName word with
    | .variable v => some v
    | _ => none
  | _ => none

/-- The first variable of some tokens that is not bound. -/
def firstUnbound? (scope : Scope) (tokens : List Token) : Option String :=
  (tokens.filterMap Token.variable?).find? (!scope.contains ·)

/-- The truth value of a condition. The first thing wrong in the order of reading decides: an
unbound variable counts before a fault in what follows it. -/
def evaluate (source : String) (scope : Scope) : Except Failure Bool :=
  match tokenize source with
  | .error fault => .error (.malformed fault)
  | .ok [] => .error (.malformed .empty)
  | .ok tokens =>
    let result := readAll tokens
    let rest := match result with
      | .ok (_, rest) => rest
      | .error (_, rest) => rest
    match firstUnbound? scope (tokens.take (tokens.length - rest.length)) with
    | some name => .error (.undefined name)
    | none =>
      match result with
      | .ok (e, _) => .ok (e.value scope).isTruthy
      | .error (fault, _) => .error (.malformed fault)

end TagTemplate.Condition
