import TagTemplate.Handler.Basic
import TagTemplate.Tree.Builder

/-!
# Registries

A registry maps folded names to handlers, in the order in which the names were first registered. A
name in a source refers to the handler registered under it, or else to the first handler in that
order that answers to it.
-/

namespace TagTemplate

/-- Handlers by folded name. -/
structure Registry where
  handlers : OrderedMap Handler := .empty

namespace Registry

/-- No handlers: every tag is unknown. -/
def empty : Registry := ⟨.empty⟩

/-- Registers a handler; one of the same name loses its place to it. -/
def register (r : Registry) (name : String) (handler : Handler) : Registry :=
  ⟨r.handlers.insert (Text.foldAscii name) handler⟩

/-- The handler registered under a canonical name. -/
def get? (r : Registry) (name : String) : Option Handler := r.handlers.get? name

/-- The canonical name and the handler that a name in a source refers to. -/
def resolve? (r : Registry) (name : String) : Option (String × Handler) :=
  let folded := Text.foldAscii name
  match r.handlers.get? folded with
  | some handler => some (folded, handler)
  | none => r.handlers.entries.find? fun entry => entry.2.answersTo folded

/-- What the registry tells about tags when a source is parsed. -/
def table (r : Registry) : TagTable := fun name =>
  (r.resolve? name).map fun (canonical, handler) => ⟨canonical, handler.hasBody⟩

/-- The canonical names in order. -/
def names (r : Registry) : List String := r.handlers.keys

end Registry

end TagTemplate
