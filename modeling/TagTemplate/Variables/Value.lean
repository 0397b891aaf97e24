import TagTemplate.Decimal.Layout
import TagTemplate.Decimal.Numeral
import TagTemplate.Text.Lowercase

/-!
# Values

What a variable can hold. Templates deal in texts for the most part; numbers, truth values and
lists come from the host. Each value has a reading as a text, as a truth value, and sometimes as
a number.
-/

namespace TagTemplate

/-- A value bound to a variable. -/
inductive Value where
  | null
  | bool (b : Bool)
  | number (x : Float)
  | text (s : String)
  | list (items : List Value)
deriving Repr, BEq, Inhabited

namespace Value

/-- Numbers in output have all their places, whole ones no point, and zero no sign. -/
def numberLayout : Decimal.Layout where
  positional _ := true
  wholePoint := false
  exponentPlus := false
  signedZero := false
  tie := .up
  nan := "NaN"
  infinity := "inf"

/-- A truth value as a word. -/
def wordOfBool (b : Bool) : String := if b then "true" else "false"

mutual

/-- The value as output shows it: the items of a list between commas. -/
def display : Value → String
  | .null => ""
  | .bool b => wordOfBool b
  | .number x => numberLayout.write x
  | .text s => s
  | .list items => String.intercalate "," (displayAll items)

def displayAll : List Value → List String
  | [] => []
  | v :: rest => v.display :: displayAll rest

end

mutual

/-- The value with its structure, as a dump shows it. -/
def describe : Value → String
  | .null => "null"
  | .text s => "\"" ++ s ++ "\""
  | .list items => "[" ++ String.intercalate ", " (describeAll items) ++ "]"
  | .bool b => wordOfBool b
  | .number x => numberLayout.write x

def describeAll : List Value → List String
  | [] => []
  | v :: rest => v.describe :: describeAll rest

end

/-- A word that says no, or nothing at all. -/
def isFalseWord (folded : String) : Bool := folded == "" || folded == "false" || folded == "no"

/-- A word that says yes. -/
def isTrueWord (folded : String) : Bool := folded == "true" || folded == "yes"

/-- The value as a truth value. A text counts by its word, or else by the number it denotes, and
any other text is true. -/
def isTruthy : Value → Bool
  | .null => false
  | .bool b => b
  | .number x => x != 0
  | .list items => !items.isEmpty
  | .text s =>
    let word := Text.foldAscii (Text.trim s)
    if isFalseWord word then false
    else if isTrueWord word then true
    else match Decimal.read? s with
      | some x => x != 0
      | none => true

/-- The value as a number, if it is one or denotes one. -/
def asNumber? : Value → Option Float
  | .number x => some x
  | .text s => Decimal.read? s
  | _ => none

/-- The items of a list. -/
def asList? : Value → Option (List Value)
  | .list items => some items
  | _ => none

end Value

end TagTemplate
