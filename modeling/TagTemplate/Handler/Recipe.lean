import TagTemplate.Handler.Basic

/-!
# Handlers by recipe

A host that does not write handlers can describe them. A recipe says for each hook what it does:
check a condition, fail, render the children some times over, embed a template, change the letters
of the output or drop it, and end with some flow. A recipe can also leave a trace of its hooks in a
variable.
-/

namespace TagTemplate

/-- What is done to the output of a tag. -/
inductive Finish where
  | upper
  | wrap
  | drop
deriving Repr, DecidableEq

/-- The description of a handler. -/
structure Recipe where
  hasBody : Bool := true
  /-- The folded names that refer to the handler without being registered. -/
  bareNames : List String := []
  branch : Option Branch := none
  interpolation : Option Bool := none
  /-- The variable that each hook adds its letter to, with 1 or 0 for whether references are
  replaced at that moment. -/
  trace : Option String := none
  guard : Option String := none
  enterFailure : Option String := none
  bodyFailure : Option String := none
  /-- How often the children are rendered. -/
  passes : Nat := 1
  embeds : Option String := none
  flow : Flow := .proceed
  exitFailure : Option String := none
  finish : Option Finish := none
deriving Repr

/-- The output after the finish. -/
def Finish.apply : Finish → String → String
  | .upper, text => String.ofList (text.toList.map Char.toUpper)
  | .wrap, text => "[" ++ text ++ "]"
  | .drop, _ => ""

namespace Recipe

/-- The text of a variable, empty if it is not bound. -/
def textOf (scope : Scope) (name : String) : String :=
  match scope.get? name with
  | some v => v.display
  | none => ""

/-- Leaves the letter of a hook in the trace. -/
def leaveTrace (r : Recipe) (letter : String) : Program Unit :=
  match r.trace with
  | none => .done ()
  | some name => .look fun view =>
    let state := if view.interpolating then "1" else "0"
    .assign name (.text (textOf view.scope name ++ letter ++ state))

/-- Fails if there is a message to fail with. -/
def failWith (tag : Tag) : Option String → Program Unit
  | none => .done ()
  | some message => .fail (.handler tag.name message)

/-- Renders a tag's children some times over, and then does something else unless a pass does not
proceed. -/
def repeatBody : (passes : Nat) → (out : String) → (String → Program (String × Flow)) →
    Program (String × Flow)
  | 0, out, onward => onward out
  | passes + 1, out, onward => .render .body fun rendered =>
    match rendered.outcome with
    | .error e => .fail e
    | .ok .proceed => repeatBody passes (out ++ rendered.text) onward
    | .ok flow => .done (out ++ rendered.text, flow)

/-- Embeds the template of the recipe, if it has one, and ends with its flow. -/
def embedAndEnd (r : Recipe) (out : String) : Program (String × Flow) :=
  match r.embeds with
  | none => .done (out, r.flow)
  | some path => .embed path fun rendered =>
    match rendered.outcome with
    | .error e => .fail e
    | .ok .proceed => .done (out ++ rendered.text, r.flow)
    | .ok flow => .done (out ++ rendered.text, flow)

def guardHook (r : Recipe) (e : Element) : Program Bool := do
  r.leaveTrace "g"
  match r.guard with
  | none => .done true
  | some condition => .look fun view => .ofExcept (e.tag.conditionHolds condition view.scope)

def enterHook (r : Recipe) (e : Element) : Program Unit := do
  r.leaveTrace "e"
  failWith e.tag r.enterFailure

def bodyHook (r : Recipe) (e : Element) : Program (String × Flow) := do
  r.leaveTrace "b"
  failWith e.tag r.bodyFailure
  repeatBody r.passes "" r.embedAndEnd

def exitHook (r : Recipe) (e : Element) (text : String) : Program String := do
  r.leaveTrace "x"
  failWith e.tag r.exitFailure
  match r.finish with
  | none => .done text
  | some finish => .done (finish.apply text)

/-- The handler that a recipe describes. -/
def toHandler (r : Recipe) : Handler where
  hasBody := r.hasBody
  answersTo name := r.bareNames.contains name
  branch := r.branch
  interpolation := r.interpolation
  guard := r.guardHook
  enter := r.enterHook
  body := r.bodyHook
  exit := r.exitHook

end Recipe

end TagTemplate
