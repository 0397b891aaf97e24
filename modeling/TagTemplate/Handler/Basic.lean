import TagTemplate.Handler.Program
import TagTemplate.Tree.Node

/-!
# Handlers

A handler is what a tag name means. It says whether the tag owns a body, which other spellings
refer to it, which place it has in a chain of branches, and whether references in its body are
replaced; and it reacts in four hooks, in this order:

* `guard` decides whether the tag runs at all;
* `enter` comes before the body;
* `body` makes the output of the tag, by rendering its children or otherwise;
* `exit` has the last word on that output, unless the body broke off.

By default a handler is transparent: its body is rendered as if the tag were not there.
-/

namespace TagTemplate

/-- A tag as it stands in a template: its head, and the children when it owns a body. -/
structure Element where
  tag : Tag
  body : Option (List Node)
deriving Inhabited

/-- The children of a tag; none without a body. -/
def Element.children (e : Element) : List Node := e.body.getD []

/-- The place of a tag in a chain of branches. -/
inductive Branch where
  | first
  | alternative
  | last
deriving Repr, DecidableEq

/-- The meaning of a tag name. -/
structure Handler where
  hasBody : Bool
  /-- Whether a folded name that is not registered refers to this handler. -/
  answersTo : String → Bool := fun _ => false
  branch : Option Branch := none
  /-- Whether references are replaced in the body; if not said, as around the tag. -/
  interpolation : Option Bool := none
  guard : Element → Program Bool := fun _ => .done true
  enter : Element → Program Unit := fun _ => .done ()
  body : Element → Program (String × Flow) := fun _ => .rendered .body
  exit : Element → String → Program String := fun _ text => .done text

namespace Tag

/-- The expanded value of an attribute. -/
def value? (tag : Tag) (scope : Scope) (name : String) : Option Value :=
  (tag.attr? name).map scope.expand

/-- The expanded text of an attribute. -/
def text? (tag : Tag) (scope : Scope) (name : String) : Option String :=
  (tag.attr? name).map scope.expandText

/-- The expanded text of an attribute that must be there. -/
def requireText (tag : Tag) (scope : Scope) (name : String) : Except RenderError String :=
  match tag.text? scope name with
  | some text => .ok text
  | none => .error (.missingAttribute tag.name name tag.span.line)

/-- Whether a condition holds, any failure being blamed on the tag. -/
def conditionHolds (tag : Tag) (source : String) (scope : Scope) : Except RenderError Bool :=
  match Condition.evaluate source scope with
  | .ok b => .ok b
  | .error (.undefined name) => .error (.undefinedVariable name tag.span.line)
  | .error (.malformed fault) => .error (.condition fault tag.span.line)

/-- The error that an attribute of the tag has a value it must not have. -/
def invalid (tag : Tag) (attr value : String) (fault : AttributeFault) : RenderError :=
  .invalidAttribute tag.name attr value fault tag.span.line

end Tag

end TagTemplate
