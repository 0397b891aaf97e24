import TagTemplate.Handler.Basic

/-!
# Binding variables

`cfparam` declares a variable that must be bound, or binds its default, and can check what kind of
value it holds. `cfset` binds variables, either one by `name` and `value` or each attribute as a
variable. `cfsavecontent` binds what its body would have put out.
-/

namespace TagTemplate.Builtin

/-! ## Declarations -/

/-- A value that reads as a truth value: one, a number, or a text that is a word or a numeral. -/
def isBoolean : Value → Bool
  | .bool _ => true
  | .number _ => true
  | .text s =>
    let word := Text.foldAscii (Text.trim s)
    word == "true" || word == "false" || word == "yes" || word == "no" ||
      (Decimal.read? s).isSome
  | _ => false

/-- A value that is a text, or has a plain text. -/
def isPlain : Value → Bool
  | .text _ => true
  | .number _ => true
  | .bool _ => true
  | _ => false

/-- Whether a value is of a named type, if there is a type of that name. -/
def isOfType? (type : String) (v : Value) : Option Bool :=
  if type = "any" then some true
  else if type = "string" then some (isPlain v)
  else if type = "numeric" then some v.asNumber?.isSome
  else if type = "boolean" then some (isBoolean v)
  else none

/-- Checks the value of a declared variable against the type that the tag demands, if any. -/
def checkType (tag : Tag) (name : String) (scope : Scope) : Except RenderError Unit :=
  match tag.attr? "type" with
  | none => .ok ()
  | some raw =>
    let type := Text.foldAscii raw
    match isOfType? type ((scope.get? name).getD .null) with
    | none => .error (tag.invalid "type" type .unknownType)
    | some false => .error (.invalidParamType name type tag.span.line)
    | some true => .ok ()

/-- Binds the default where the variable is not bound, then checks the type. -/
def declare (e : Element) : Program Unit := do
  let scope ← Program.scope
  let name ← .ofExcept (e.tag.requireText scope "name")
  if !scope.contains name then
    match e.tag.value? scope "default" with
    | none => .fail (.missingRequiredParam name e.tag.span.line)
    | some v => .assign name v
  let scope ← Program.scope
  .ofExcept (checkType e.tag name scope)

/-- Declares a variable. -/
def param : Handler where
  hasBody := false
  answersTo name := name == "param"
  enter := declare

/-! ## Assignments -/

/-- Binds each attribute as a variable, one after the other. -/
def bindPairs (pairs : List (String × String)) (scope : Scope) : Scope :=
  pairs.foldl (fun scope pair => scope.insert pair.1 (scope.expand pair.2)) scope

/-- Binds one variable by name and value, or a variable for each attribute. -/
def assignAll (e : Element) : Program Unit := do
  let attributes := e.tag.attributes
  if attributes.isEmpty then
    .fail (.missingAttribute e.tag.name "name" e.tag.span.line)
  else
    let scope ← Program.scope
    match e.tag.text? scope "name", e.tag.value? scope "value" with
    | some name, some v =>
      match attributes.toList.find? fun pair => pair.1 != "name" && pair.1 != "value" with
      | some (attr, raw) => .fail (e.tag.invalid attr raw .mixedForms)
      | none => .assign name v
    | _, _ => .update (bindPairs attributes.toList) (.done ())

/-- Binds variables. -/
def set : Handler where
  hasBody := false
  answersTo name := name == "set"
  enter := assignAll

/-! ## Captures -/

/-- Renders the body and binds its output, unless the render is aborted. -/
def capture (e : Element) : Program (String × Flow) := do
  let scope ← Program.scope
  let name ← .ofExcept (e.tag.requireText scope "variable")
  let (text, flow) ← .rendered .body
  if flow = .abort then .done ("", flow)
  else do
    .assign name (.text text)
    .done ("", flow)

/-- Binds the output of its body. -/
def saveContent : Handler where
  hasBody := true
  answersTo name := name == "savecontent"
  body := capture

end TagTemplate.Builtin
