import TagTemplate.Names.OrderedMap
import TagTemplate.Text.Lowercase

/-!
# Maps by name

Names of attributes and of variables do not depend on the case of their ASCII letters. A name map
folds each name before it touches the map below, so stored names are always folded.
-/

namespace TagTemplate

/-- Values by folded name, in order of first insertion. -/
structure NameMap (α : Type) where
  bindings : OrderedMap α := .empty
deriving Repr, DecidableEq, Inhabited

namespace NameMap

variable {α : Type}

/-- The map without names. -/
def empty : NameMap α := ⟨.empty⟩

/-- The value of a name, in any case of its letters. -/
def get? (m : NameMap α) (name : String) : Option α := m.bindings.get? (Text.foldAscii name)

/-- Whether the name is there. -/
def contains (m : NameMap α) (name : String) : Bool := (m.get? name).isSome

/-- Sets the value of a name. -/
def insert (m : NameMap α) (name : String) (value : α) : NameMap α :=
  ⟨m.bindings.insert (Text.foldAscii name) value⟩

/-- Drops a name. -/
def erase (m : NameMap α) (name : String) : NameMap α := ⟨m.bindings.erase (Text.foldAscii name)⟩

/-- The names and values in order. -/
def toList (m : NameMap α) : List (String × α) := m.bindings.entries

/-- The map that setting one name after the other makes. -/
def ofList (entries : List (String × α)) : NameMap α :=
  entries.foldl (fun m entry => m.insert entry.1 entry.2) empty

/-- The number of names. -/
def size (m : NameMap α) : Nat := m.bindings.size

def isEmpty (m : NameMap α) : Bool := m.bindings.isEmpty

end NameMap

end TagTemplate
