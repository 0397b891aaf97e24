import TagTemplate.Builtin.Registry
import TagTemplate.Render.Walk

/-!
# The engine

An engine is a registry of handlers, a loader of templates and limits: all that a render needs
beside a template and variables. It parses sources into templates and renders templates against a
scope. A template that another one includes is loaded and parsed when the include is reached, and
rendered in its place with the same variables; references in it are not replaced at first, wherever
the include stands.
-/

namespace TagTemplate

/-! ## Loaders -/

/-- Why a template cannot be loaded. -/
structure LoadError where
  message : String
deriving Repr, DecidableEq

/-- Finds the source of a template by its path. -/
abbrev Loader := String → Except LoadError String

namespace Loader

/-- Finds nothing. -/
def none : Loader := fun path => .error ⟨s!"no template loader configured for '{path}'"⟩

/-- Finds the templates of a map. -/
def ofMap (templates : OrderedMap String) : Loader := fun path =>
  match templates.get? path with
  | some source => .ok source
  | Option.none => .error ⟨s!"template not found: {path}"⟩

end Loader

/-- All that a render needs beside a template and variables. -/
structure Engine where
  registry : Registry := Builtin.registry
  loader : Loader := Loader.none
  limits : Limits := {}

namespace Engine

/-- Parses a source with the tags and the depth limit of the engine. -/
def parse (engine : Engine) (source : String) : Except ParseError Template :=
  Template.parse engine.registry.table engine.limits.maxDepth source

/-! ## Includes -/

/-- Loads and parses the template at a path. -/
def fetch (engine : Engine) (path : String) : Except RenderError Template :=
  match engine.loader path with
  | .error e => .error (.includeResolution path e.message)
  | .ok source =>
    match engine.parse source with
    | .error e => .error (.includeParse path e)
    | .ok template => .ok template

/-- Renders a template in the place of an include, as one more that is open. -/
def renderOpened (nodes : Walker) : Render := fun st =>
  let outside := st.interpolating
  let (rendered, st) := Setting.pass nodes
    { st with interpolating := false, includeDepth := st.includeDepth + 1 }
  (rendered, { st with interpolating := outside, includeDepth := st.includeDepth - 1 })

/-- Renders the template at a path. At most `budget` includes may still be opened, one within the
other; where the state counts all that the limit allows, none may. -/
def embed (engine : Engine) : (budget : Nat) → String → Render
  | 0, path, st => (⟨"", .error (.includeDepthExceeded path engine.limits.maxIncludeDepth)⟩, st)
  | budget + 1, path, st =>
    if engine.limits.maxIncludeDepth ≤ st.includeDepth then
      (⟨"", .error (.includeDepthExceeded path engine.limits.maxIncludeDepth)⟩, st)
    else match engine.fetch path with
      | .error e => (⟨"", .error e⟩, st)
      | .ok template =>
        let s : Setting := ⟨engine.registry, engine.limits, engine.embed budget⟩
        renderOpened (s.walk template.nodes) st

/-- The setting in which a template is rendered. -/
def setting (engine : Engine) : Setting :=
  ⟨engine.registry, engine.limits, engine.embed engine.limits.maxIncludeDepth⟩

/-! ## Rendering -/

/-- What a render comes to: its output or an error, and the variables after it. -/
structure Report where
  outcome : Except RenderError String
  scope : Scope

/-- The output of a whole template. An abort keeps the output so far; a break that no loop has
caught is an error. -/
def outputOf (rendered : Rendered) : Except RenderError String :=
  match rendered.outcome with
  | .error e => .error e
  | .ok .breakLoop => .error .breakOutsideLoop
  | .ok _ => .ok rendered.text

/-- Renders the nodes of a template. -/
def run (engine : Engine) (template : Template) : Render :=
  Setting.pass (engine.setting.walk template.nodes)

/-- Renders a template. -/
def render (engine : Engine) (template : Template) (scope : Scope) : Report :=
  let (rendered, st) := engine.run template (.start scope)
  ⟨outputOf rendered, st.scope⟩

/-- What happens when a template is rendered, the latest event first. -/
def journal (engine : Engine) (template : Template) (scope : Scope) : List Event :=
  (engine.run template (.watched scope)).2.journal.getD []

end Engine

end TagTemplate
