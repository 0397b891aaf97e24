import TagTemplate.Decimal.Layout
import TagTemplate.Decimal.Numeral
import TagTemplate.Source.Attributes
import TagTemplate.Text.Letter
import TagTemplate.Text.Lowercase
import TagTemplate.Text.Quoted

/-!
# The words of a condition

A condition is a row of numerals, quoted texts, names, operators and parentheses, with blanks
between them where they would run together. Most operators have a word and a sign. A name can also
stand between `#` marks, and is then a name even when it is spelled like an operator. The words
`is not`, and the word `not` after any other sign of equality, are one operator.
-/

namespace TagTemplate.Condition

/-- How two values are compared. -/
inductive Comparison where
  | equal
  | notEqual
  | greater
  | greaterOrEqual
  | less
  | lessOrEqual
  | contains
deriving Repr, DecidableEq

/-- A word of a condition. -/
inductive Token where
  | number (x : Float)
  | text (s : String)
  | name (name : String)
  | comparison (op : Comparison)
  | and
  | or
  | not
  | leftParen
  | rightParen
deriving Repr, BEq

/-- What is wrong with the text of a condition. -/
inductive Fault where
  | empty
  | unterminatedText
  | unmatchedMark
  | invalidNumber (numeral : String)
  | unexpectedCharacter (c : Char)
  | unexpectedToken (token : Token)
  | unexpectedEnd
  | expectedRightParen
  | nestedTooDeeply
deriving Repr

/-! ## How faults show tokens -/

/-- Numbers in messages have a point, and an exponent when they are very large or very small. -/
def numberLayout : Decimal.Layout where
  positional place := -4 < place && place ≤ 16
  wholePoint := true
  exponentPlus := false
  signedZero := true
  tie := .up
  nan := "NaN"
  infinity := "inf"

def Comparison.label : Comparison → String
  | .equal => "Eq"
  | .notEqual => "Neq"
  | .greater => "Gt"
  | .greaterOrEqual => "Gte"
  | .less => "Lt"
  | .lessOrEqual => "Lte"
  | .contains => "Contains"

/-- A token as messages show it. -/
def Token.label : Token → String
  | .number x => "Number(" ++ numberLayout.write x ++ ")"
  | .text s => "Str(" ++ Text.quoted s ++ ")"
  | .name s => "Name(" ++ Text.quoted s ++ ")"
  | .comparison op => "Op(" ++ op.label ++ ")"
  | .and => "And"
  | .or => "Or"
  | .not => "Not"
  | .leftParen => "LParen"
  | .rightParen => "RParen"

def Fault.message : Fault → String
  | .empty => "empty condition"
  | .unterminatedText => "unterminated string"
  | .unmatchedMark => "unmatched '#'"
  | .invalidNumber numeral => "invalid number '" ++ numeral ++ "'"
  | .unexpectedCharacter c => "unexpected character '" ++ String.singleton c ++ "'"
  | .unexpectedToken token => "unexpected " ++ token.label
  | .unexpectedEnd => "unexpected end of condition"
  | .expectedRightParen => "expected ')'"
  | .nestedTooDeeply => "condition nested too deeply"

/-! ## Reading tokens -/

/-- A character that may follow the first one of a word. -/
def isWordChar (c : Char) : Bool := Text.isLetterOrNumeral c || c == '_' || c == '.'

/-- A character that may follow the first one of a numeral. -/
def isNumeralChar (c : Char) : Bool := c.isDigit || c == '.'

/-- The token of a word. -/
def Token.ofWord (word : String) : Token :=
  let folded := Text.foldAscii word
  if folded = "and" then .and
  else if folded = "or" then .or
  else if folded = "not" then .not
  else if folded = "eq" ∨ folded = "is" ∨ folded = "equal" then .comparison .equal
  else if folded = "neq" ∨ folded = "nequal" then .comparison .notEqual
  else if folded = "gt" then .comparison .greater
  else if folded = "gte" ∨ folded = "ge" then .comparison .greaterOrEqual
  else if folded = "lt" then .comparison .less
  else if folded = "lte" ∨ folded = "le" then .comparison .lessOrEqual
  else if folded = "contains" then .comparison .contains
  else .name word

/-- Adds a token to the tokens so far, latest first. A word `not` after an equality makes it an
inequality. -/
def pushWord (tokens : List Token) (word : String) : List Token :=
  match Token.ofWord word, tokens with
  | .not, .comparison .equal :: earlier => .comparison .notEqual :: earlier
  | token, tokens => token :: tokens

/-- The operator of one or two signs at the head, and what follows it. -/
def readSign : List Char → Option (Token × List Char)
  | '(' :: rest => some (.leftParen, rest)
  | ')' :: rest => some (.rightParen, rest)
  | '=' :: '=' :: rest => some (.comparison .equal, rest)
  | '!' :: '=' :: rest => some (.comparison .notEqual, rest)
  | '!' :: rest => some (.not, rest)
  | '<' :: '>' :: rest => some (.comparison .notEqual, rest)
  | '<' :: '=' :: rest => some (.comparison .lessOrEqual, rest)
  | '>' :: '=' :: rest => some (.comparison .greaterOrEqual, rest)
  | '<' :: rest => some (.comparison .less, rest)
  | '>' :: rest => some (.comparison .greater, rest)
  | '&' :: '&' :: rest => some (.and, rest)
  | '|' :: '|' :: rest => some (.or, rest)
  | _ => none

theorem length_lt_of_readSign {cs rest : List Char} {token : Token}
    (h : readSign cs = some (token, rest)) : rest.length < cs.length := by
  unfold readSign at h
  split at h <;> grind

/-- A numeral begins with a digit, or with a minus before a digit. -/
def beginsNumeral (c : Char) (rest : List Char) : Bool :=
  c.isDigit || (c == '-' && (match rest with | d :: _ => d.isDigit | [] => false))

/-- Reads tokens onto those so far, latest first. -/
def readTokens (tokens : List Token) (cs : List Char) : Except Fault (List Token) :=
  match cs with
  | [] => .ok tokens.reverse
  | c :: rest =>
    if Text.isBlank c then readTokens tokens rest
    else if c = '"' ∨ c = '\'' then
      match _h : Attributes.readQuoted c rest with
      | some (value, after) => readTokens (.text (String.ofList value) :: tokens) after
      | none => .error .unterminatedText
    else if c = '#' then
      match _h : rest.dropWhile (· != '#') with
      | _ :: after =>
        let name := Text.trimChars (rest.takeWhile (· != '#'))
        readTokens (.name (String.ofList name) :: tokens) after
      | [] => .error .unmatchedMark
    else
      match _h : readSign (c :: rest) with
      | some (token, after) => readTokens (token :: tokens) after
      | none =>
        if beginsNumeral c rest then
          let numeral := c :: rest.takeWhile isNumeralChar
          match Decimal.readChars numeral with
          | some x => readTokens (.number x :: tokens) (rest.dropWhile isNumeralChar)
          | none => .error (.invalidNumber (String.ofList numeral))
        else if Text.isLetter c || c == '_' then
          readTokens (pushWord tokens (String.ofList (c :: rest.takeWhile isWordChar)))
            (rest.dropWhile isWordChar)
        else .error (.unexpectedCharacter c)
termination_by cs.length
decreasing_by
  · simp
  · have := Attributes.length_lt_of_readQuoted _h
    simp only [List.length_cons]
    omega
  · have := Attributes.length_dropWhile_le (· != '#') rest
    simp only [_h, List.length_cons] at this ⊢
    omega
  · exact length_lt_of_readSign _h
  · have := Attributes.length_dropWhile_le isNumeralChar rest
    simp only [List.length_cons]
    omega
  · have := Attributes.length_dropWhile_le isWordChar rest
    simp only [List.length_cons]
    omega

/-- The tokens of a condition. -/
def tokenize (source : String) : Except Fault (List Token) := readTokens [] source.toList

end TagTemplate.Condition
