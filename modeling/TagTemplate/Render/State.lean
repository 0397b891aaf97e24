import TagTemplate.Handler.Registry

/-!
# The state of a render

What a render carries along: the variables, whether references are replaced at the moment, how
many blocks and how many includes are open, and, when the render is watched, a journal. The journal
says which hooks were called and what came of each, so that what a render did can be told from its
state. Nothing that is rendered depends on it.
-/

namespace TagTemplate

/-- The four reactions of a handler. -/
inductive Hook where
  | guard
  | enter
  | body
  | exit
deriving Repr, DecidableEq

/-- What a hook came to: an answer, or output with what becomes of the siblings, or new output
for the given one. -/
inductive HookResult where
  | guard (answer : Except RenderError Bool)
  | enter (answer : Except RenderError Unit)
  | body (answer : Except RenderError (String × Flow))
  | exit (given : String) (answer : Except RenderError String)

/-- An entry of the journal: a hook of a tag begins, at some depth of blocks and of includes, or
ends; a pass over a row of siblings begins or ends. -/
inductive Event where
  | hookBegins (hook : Hook) (tag : Tag) (depth includeDepth : Nat)
  | hookEnds (tag : Tag) (result : HookResult)
  | passBegins
  | passEnds (outcome : Except RenderError Flow)

/-- What a render carries along. The journal of a watched render has the latest event first. -/
structure RenderState where
  scope : Scope
  interpolating : Bool
  depth : Nat
  includeDepth : Nat
  journal : Option (List Event)

namespace RenderState

/-- The state in which a render begins. -/
def start (scope : Scope) : RenderState := ⟨scope, false, 0, 0, none⟩

/-- The state in which a watched render begins. -/
def watched (scope : Scope) : RenderState := ⟨scope, false, 0, 0, some []⟩

/-- Adds to the journal, if there is one. -/
@[inline]
def note (st : RenderState) (event : Event) : RenderState :=
  match st.journal with
  | none => st
  | some journal => { st with journal := some (event :: journal) }

/-- What hooks can see. -/
def view (st : RenderState) (limits : Limits) : View := ⟨st.scope, limits, st.interpolating⟩

/-- The output of an interpolation: its source where references are not replaced; else a mark for
an empty reference, and for another the text of the variable, or nothing if it is not bound. -/
def interpolation (st : RenderState) (expression : String) : String :=
  if st.interpolating then
    let name := Text.trim expression
    if name.isEmpty then "#"
    else match st.scope.get? name with
      | some value => value.display
      | none => ""
  else interpolationSource expression

end RenderState

/-- Renders something: gives its output and the state after it. -/
abbrev Render := RenderState → Rendered × RenderState

/-- What surrounds a hook: the limits, and how its requests for output are met. -/
structure Surroundings where
  limits : Limits
  region : Region → Render
  embed : String → Render

/-- Runs a program, request by request. -/
def Program.run {α : Type} (s : Surroundings) :
    Program α → RenderState → Except RenderError α × RenderState
  | .done result, st => (.ok result, st)
  | .fail error, st => (.error error, st)
  | .look next, st => (next (st.view s.limits)).run s st
  | .update change next, st => next.run s { st with scope := change st.scope }
  | .render region next, st =>
    let (rendered, st) := s.region region st
    (next rendered).run s st
  | .embed path next, st =>
    let (rendered, st) := s.embed path st
    (next rendered).run s st

/-- Runs a hook, and enters it in the journal. -/
def Program.runHook {α : Type} (p : Program α) (s : Surroundings) (hook : Hook) (tag : Tag)
    (result : Except RenderError α → HookResult) (st : RenderState) :
    Except RenderError α × RenderState :=
  let (answer, st) := p.run s (st.note (.hookBegins hook tag st.depth st.includeDepth))
  (answer, st.note (.hookEnds tag (result answer)))

end TagTemplate
