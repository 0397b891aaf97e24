import TagTemplate.Json.Variables
import TagTemplate.Text.Quoted

/-!
# Why a JSON text is no scope

A text is read from left to right, and refused at the first thing wrong with it: its syntax, a
value in the place of the object, or a member that holds an object. The last two are shown with a
place, which is a line and the bytes of it that were read. Nothing inside of an array that stands
in the place of the object is read; after a member, the brace that ends the object is.
-/

namespace TagTemplate

namespace Json

/-- Why a text is no scope. -/
inductive Refusal where
  | malformed
  | notAnObject (found : String) (line column : Nat)
  | notAValue (line column : Nat)
deriving Repr, DecidableEq

def Refusal.message : Refusal → String
  | .malformed => "malformed JSON"
  | .notAnObject found line column =>
    s!"invalid type: {found}, expected a map at line {line} column {column}"
  | .notAValue line column =>
    s!"data did not match any variant of untagged enum Value at line {line} column {column}"

/-! ## Places -/

/-- The line and the bytes read of it, after some characters. -/
def placeAfter (cs : List Char) : Nat × Nat :=
  cs.foldl (fun (line, column) c =>
    if c = '\n' then (line + 1, 0) else (line, column + c.utf8Size)) (1, 0)

/-- The place in a text where so much of it is left. -/
def placeBefore (text rest : List Char) : Nat × Nat :=
  placeAfter (text.take (text.length - rest.length))

/-! ## A value in the place of the object -/

/-- Whether a literal is that of an integer of 64 bits. Zero has no sign among these. -/
def isInteger : List Char → Bool
  | '-' :: digits =>
    digits.all Char.isDigit && 0 < Decimal.valueOf digits &&
      Decimal.valueOf digits ≤ Decimal.twoTo 63
  | digits => digits.all Char.isDigit && Decimal.valueOf digits < UInt64.size

/-- A value as a refusal shows it. -/
def shown : Json → String
  | .null => "null"
  | .bool b => "boolean `" ++ Value.wordOfBool b ++ "`"
  | .number literal =>
    if isInteger literal then "integer `" ++ String.ofList literal ++ "`"
    else "floating point `" ++ writeNumber ((numberOf? literal).getD 0) ++ "`"
  | .string s => "string " ++ Text.quoted s
  | .array _ => "sequence"
  | .object _ => "map"

/-- The refusal of a text that does not begin with an object; `rest` is what stands after its
blanks. -/
def refuseStart (text rest : List Char) : Refusal :=
  match rest with
  | '[' :: _ =>
    let (line, column) := placeBefore text rest
    .notAnObject (shown (.array [])) line column
  | _ =>
    match readValue 1 0 rest with
    | none => .malformed
    | some (json, after) =>
      let (line, column) := placeBefore text after
      .notAnObject (shown json) line column

/-! ## Members that are no values -/

/-- What is left after the first member whose value is none, if the text is sound up to there.
Each member takes a character, so `fuel` of one for each is enough. -/
def afterMisfit? : (fuel : Nat) → List Char → Option (List Char)
  | 0, _ => none
  | fuel + 1, cs =>
    match skipBlanks cs with
    | '"' :: rest =>
      match readString [] rest with
      | none => none
      | some (_, rest) =>
        match skipBlanks rest with
        | ':' :: rest =>
          match readValue (2 * rest.length + 2) (maxNesting - 1) rest with
          | none => none
          | some (json, rest) =>
            if json.toValue?.isNone then some rest
            else match skipBlanks rest with
              | ',' :: rest => afterMisfit? fuel rest
              | _ => none
        | _ => none
    | _ => none

/-- The refusal of a text after the brace that begins the object. -/
def refuseMembers (text rest : List Char) : Refusal :=
  match afterMisfit? rest.length rest with
  | none => .malformed
  | some rest =>
    let stop := match skipBlanks rest with
      | '}' :: rest => rest
      | rest => rest
    let (line, column) := placeBefore text stop
    .notAValue line column

/-- Why a text that is no scope is none. -/
def refusalOf (text : String) : Refusal :=
  match skipBlanks text.toList with
  | '{' :: rest => refuseMembers text.toList rest
  | rest => refuseStart text.toList rest

end Json

/-- The scope of a JSON text, or why there is none. -/
def Scope.ofJson (text : String) : Except Json.Refusal Scope :=
  match Scope.ofJson? text with
  | some scope => .ok scope
  | none => .error (Json.refusalOf text)

end TagTemplate
