import TagTemplate.Source.Attributes
import TagTemplate.Source.Token

/-!
# Template trees

A parsed template is a list of nodes: text, interpolations, and tags that some handler claims. A
tag either stands alone (a void tag) or encloses a body (a block). Tags that nobody claims are
part of the text.
-/

namespace TagTemplate

/-- An opening tag: the canonical name of its handler, its attributes, its attribute text as
written, and where it stands. -/
structure Tag where
  name : String
  attributes : Attributes
  raw : String
  span : Span
deriving Repr, DecidableEq, Inhabited

/-- The raw value of an attribute. -/
def Tag.attr? (tag : Tag) (name : String) : Option String := tag.attributes.get? name

/-- A node of a template. -/
inductive Node where
  /-- Literal text. -/
  | text (text : String)
  /-- A reference between two `#` marks. -/
  | interpolation (expression : String) (span : Span)
  /-- A tag without a body. -/
  | void (tag : Tag)
  /-- A tag with a body, which may be empty. -/
  | block (tag : Tag) (children : List Node)
deriving Repr, Inhabited

namespace Node

/-- Text of blanks only. -/
def isBlank : Node → Bool
  | .text t => Text.isBlankText t
  | _ => false

/-- The nodes that a node encloses. -/
def children : Node → List Node
  | .block _ children => children
  | _ => []

/-- The tag of a node. -/
def tag? : Node → Option Tag
  | .void tag => some tag
  | .block tag _ => some tag
  | _ => none

end Node

/-- An interpolation as it stands in the source. -/
def interpolationSource (expression : String) : String := "#" ++ expression ++ "#"

/-- A parsed template. -/
structure Template where
  nodes : List Node
deriving Repr, Inhabited

end TagTemplate
