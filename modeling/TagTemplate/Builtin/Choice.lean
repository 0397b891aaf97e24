import TagTemplate.Handler.Basic
import TagTemplate.Text.Split

/-!
# Switches

`cfswitch` renders the body of one of its children: of the first `cfcase` one of whose
alternatives equals the expression, or else of the first `cfdefault`, wherever it stands. The other
children have no effect. A case or a default anywhere else is misplaced.
-/

namespace TagTemplate.Builtin

/-- Whether one of the alternatives of a case, trimmed, is the expression. -/
def caseMatches (tag : Tag) (value expression : String) : Bool :=
  (Text.splitAny ((tag.attr? "delimiters").getD ",") value).any (Text.trim · == expression)

/-- The place of the child to render, from the children still to be looked at. `place` counts
those before them, and `fallback` is the default found among those. A case without a value is an
error if no case before it matches. -/
def chosenChild (scope : Scope) (expression : String) :
    (place : Nat) → (fallback : Option Nat) → List Node → Except RenderError (Option Nat)
  | _, fallback, [] => .ok fallback
  | place, fallback, node :: rest =>
    match node.tag? with
    | none => chosenChild scope expression (place + 1) fallback rest
    | some tag =>
      if tag.name = "cfcase" then
        match tag.requireText scope "value" with
        | .error e => .error e
        | .ok value =>
          if caseMatches tag value expression then .ok (some place)
          else chosenChild scope expression (place + 1) fallback rest
      else if tag.name = "cfdefault" then
        chosenChild scope expression (place + 1) (fallback <|> some place) rest
      else chosenChild scope expression (place + 1) fallback rest

/-- Renders the chosen child, if any. -/
def switchBody (e : Element) : Program (String × Flow) := do
  let scope ← Program.scope
  let expression ← .ofExcept (e.tag.requireText scope "expression")
  match ← .ofExcept (chosenChild scope expression 0 none e.children) with
  | some place => .rendered (.bodyOfChild place)
  | none => .done ("", .proceed)

/-- Renders one of its children. -/
def switch : Handler where
  hasBody := true
  answersTo name := name == "switch"
  body := switchBody

/-- The error of a tag that stands outside a switch. -/
def outsideSwitch (e : Element) : Program Unit :=
  .fail (.misplaced e.tag.name .insideSwitch e.tag.span.line)

/-- A child of a switch with a value. -/
def caseChild : Handler where
  hasBody := true
  answersTo name := name == "case"
  enter := outsideSwitch

/-- The child of a switch that is rendered when no case matches. -/
def defaultChild : Handler where
  hasBody := true
  answersTo name := name == "default" || name == "defaultcase" || name == "cfdefaultcase"
  enter := outsideSwitch

end TagTemplate.Builtin
