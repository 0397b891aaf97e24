import TagTemplate.Json.Reader
import TagTemplate.Variables.Scope

/-!
# Variables in JSON

A JSON object is a scope. A member whose name comes again keeps its place and takes the last value;
the members that remain bind variables, one after the other, and so names that differ in the case
of their letters meet only then. Members that are objects themselves are not values. The other way, a scope is written as an object with one member
on a line, so that a person can read it.
-/

namespace TagTemplate

namespace Json

mutual

/-- The value that a JSON text denotes. -/
def toValue? : Json → Option Value
  | .null => some .null
  | .bool b => some (.bool b)
  | .number literal => (numberOf? literal).map .number
  | .string s => some (.text s)
  | .array items => (toValues? items).map .list
  | .object _ => none

def toValues? : List Json → Option (List Value)
  | [] => some []
  | item :: rest =>
    match item.toValue?, toValues? rest with
    | some v, some vs => some (v :: vs)
    | _, _ => none

end

/-- The members of an object as values. -/
def toBindings? : List (String × Json) → Option (List (String × Value))
  | [] => some []
  | (name, json) :: rest =>
    match json.toValue?, toBindings? rest with
    | some v, some bindings => some ((name, v) :: bindings)
    | _, _ => none

/-! ## Writing -/

/-- Numbers have a point, or an exponent with its sign when they are very large or very small. -/
def numberLayout : Decimal.Layout where
  positional place := -5 < place && place ≤ 16
  wholePoint := true
  exponentPlus := true
  signedZero := true
  tie := .toEven
  nan := "null"
  infinity := "null"

/-- A number in JSON, which has none for the infinities. -/
def writeNumber (x : Float) : String := if x.isInf then "null" else numberLayout.write x

/-- A character as it stands in a string. Quotes, backslashes and controls are escaped. -/
def writeChar (c : Char) : List Char :=
  if c = '"' then ['\\', '"']
  else if c = '\\' then ['\\', '\\']
  else if c = '\n' then ['\\', 'n']
  else if c = '\r' then ['\\', 'r']
  else if c = '\t' then ['\\', 't']
  else if c.toNat = 8 then ['\\', 'b']
  else if c.toNat = 12 then ['\\', 'f']
  else if c.toNat < 32 then
    ['\\', 'u', '0', '0', Nat.digitChar (c.toNat / 16), Nat.digitChar (c.toNat % 16)]
  else [c]

/-- A string between quotes. -/
def writeString (s : String) : String :=
  String.ofList ('"' :: s.toList.flatMap writeChar ++ ['"'])

/-- Two blanks for each level. -/
def indent (level : Nat) : String := String.ofList (List.replicate (2 * level) ' ')

/-- Parts between brackets, each on a line of its own. -/
def writeLines (opening closing : String) (level : Nat) (parts : List String) : String :=
  if parts.isEmpty then opening ++ closing
  else
    let lines := parts.map fun part => "\n" ++ indent (level + 1) ++ part
    opening ++ String.intercalate "," lines ++ "\n" ++ indent level ++ closing

mutual

/-- A value in JSON, inside so many containers. -/
def writeValue (level : Nat) : Value → String
  | .null => "null"
  | .bool b => Value.wordOfBool b
  | .number x => writeNumber x
  | .text s => writeString s
  | .list items => writeLines "[" "]" level (writeValues (level + 1) items)

def writeValues (level : Nat) : List Value → List String
  | [] => []
  | v :: rest => writeValue level v :: writeValues level rest

end

end Json

/-- The scope of a JSON text. -/
def Scope.ofJson? (text : String) : Option Scope :=
  match Json.read? text with
  | some (.object members) =>
    (Json.toBindings? members).map fun bindings =>
      NameMap.ofList (OrderedMap.ofList bindings).entries
  | _ => none

/-- The scope as a JSON text. -/
def Scope.toJson (scope : Scope) : String :=
  Json.writeLines "\x7b" "\x7d" 0 (scope.toList.map fun (name, v) =>
    Json.writeString name ++ ": " ++ Json.writeValue 1 v)

end TagTemplate
