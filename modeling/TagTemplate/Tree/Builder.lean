import TagTemplate.Tree.Node
import TagTemplate.Tree.ParseError

/-!
# Building the tree

Tokens become nodes one after the other. The tags that are open form a stack; a closing tag must
match the innermost. Which names are tags, and which of these own a body, is not a matter of
syntax: a table says so. The source of an unknown tag stays text, though pairs of `#` marks in it
still refer to variables. Text that comes next to text is one node.

The first token that does not fit decides the error.
-/

namespace TagTemplate

/-- What a table knows of a tag: the canonical name, and whether it owns a body. -/
structure TagInfo where
  name : String
  hasBody : Bool
deriving Repr, DecidableEq

/-- Looks up a tag name as written, folded. -/
abbrev TagTable := String → Option TagInfo

/-- A tree under construction: the nodes so far of the innermost open tag, latest first, and the
open tags from the innermost out, each with the nodes before it, latest first. -/
structure TreeBuilder where
  current : List Node
  opened : List (Tag × List Node)
deriving Inhabited

namespace TreeBuilder

/-- Nothing read yet. -/
def empty : TreeBuilder := ⟨[], []⟩

/-- Adds a node to the innermost open tag. -/
def push (b : TreeBuilder) (node : Node) : TreeBuilder := { b with current := node :: b.current }

/-- Adds text; next to text it joins it. -/
def pushText (b : TreeBuilder) (text : String) : TreeBuilder :=
  if text.isEmpty then b
  else match b.current with
    | .text previous :: rest => { b with current := .text (previous ++ text) :: rest }
    | _ => b.push (.text text)

/-! ## Unknown tags -/

/-- A character before which the partner of a `#` must stand, or that partner. -/
def endsReference (c : Char) : Bool := c == '#' || c == '<' || c == '>' || c == '\n'

/-- The source of an unknown tag as text and references, all with the place of the tag. -/
def foreignPieces (span : Span) (cs : List Char) : List Node :=
  let before := cs.takeWhile (· != '#')
  match _h : cs.dropWhile (· != '#') with
  | [] => [.text (String.ofList before)]
  | mark :: after =>
    match _hr : after.dropWhile (!endsReference ·) with
    | '#' :: rest =>
      .text (String.ofList before) ::
        .interpolation (String.ofList (after.takeWhile (!endsReference ·))) span ::
          foreignPieces span rest
    | _ => .text (String.ofList (before ++ [mark])) :: foreignPieces span after
termination_by cs.length
decreasing_by
  · have h1 := Attributes.length_dropWhile_le (· != '#') cs
    have h2 := Attributes.length_dropWhile_le (!endsReference ·) after
    simp only [_h, _hr, List.length_cons] at h1 h2
    omega
  · have h1 := Attributes.length_dropWhile_le (· != '#') cs
    simp only [_h, List.length_cons] at h1
    omega

/-- Adds a piece of an unknown tag. -/
def pushPiece (b : TreeBuilder) : Node → TreeBuilder
  | .text t => b.pushText t
  | node => b.push node

/-- Adds the source of an unknown tag. -/
def pushForeign (b : TreeBuilder) (lexeme : String) (span : Span) : TreeBuilder :=
  (foreignPieces span lexeme.toList).foldl pushPiece b

/-! ## Known tags -/

/-- Adds an opening tag: a void tag and a self-closing block at once, any other block by opening
it, if fewer than `maxDepth` are open. -/
def openTag (b : TreeBuilder) (maxDepth : Nat) (tag : Tag) (hasBody selfClosing : Bool) :
    Except ParseError TreeBuilder :=
  if !hasBody then .ok (b.push (.void tag))
  else if selfClosing then .ok (b.push (.block tag []))
  else if maxDepth ≤ b.opened.length then
    .error (.tooDeep tag.name maxDepth tag.span.line tag.span.column)
  else .ok ⟨[], (tag, b.current) :: b.opened⟩

/-- Closes the innermost open tag, which must have the canonical name; `written` is the name that
stands in the source. -/
def closeTag (b : TreeBuilder) (canonical written : String) (span : Span) :
    Except ParseError TreeBuilder :=
  match b.opened with
  | [] => .error (.unexpectedClose written span.line span.column)
  | (tag, before) :: opened =>
    if tag.name = canonical then .ok ⟨.block tag b.current.reverse :: before, opened⟩
    else .error (.unbalancedTag tag.name written span.line span.column)

/-- Adds a token. A closing tag of a void tag vanishes. -/
def accept (table : TagTable) (maxDepth : Nat) (b : TreeBuilder) (token : Token) :
    Except ParseError TreeBuilder :=
  match token.kind with
  | .text text => .ok (b.pushText text)
  | .interpolation expression => .ok (b.push (.interpolation expression token.span))
  | .tagOpen name raw selfClosing =>
    match table name with
    | none => .ok (b.pushForeign token.lexeme token.span)
    | some info =>
      match Attributes.parse raw with
      | .error e => .error (.malformedAttribute name e token.span.line token.span.column)
      | .ok attributes =>
        b.openTag maxDepth ⟨info.name, attributes, raw, token.span⟩ info.hasBody selfClosing
  | .tagClose name =>
    match table name with
    | none => .ok (b.pushText token.lexeme)
    | some info => if info.hasBody then b.closeTag info.name name token.span else .ok b

/-- The finished tree, if no tag is open. -/
def finish (b : TreeBuilder) : Except ParseError Template :=
  match b.opened with
  | [] => .ok ⟨b.current.reverse⟩
  | (tag, _) :: _ => .error (.unclosedTag tag.name tag.span.line tag.span.column)

/-- Adds tokens up to the first fault. -/
def acceptAll (table : TagTable) (maxDepth : Nat) (b : TreeBuilder) :
    List (Except ScanError Token) → Except ParseError TreeBuilder
  | [] => .ok b
  | .error e :: _ => .error (.scan e)
  | .ok token :: rest =>
    match b.accept table maxDepth token with
    | .error e => .error e
    | .ok b => b.acceptAll table maxDepth rest

end TreeBuilder

namespace Template

/-- The tree of a row of tokens, blocks nested at most `maxDepth` deep. -/
def build (table : TagTable) (maxDepth : Nat) (items : List (Except ScanError Token)) :
    Except ParseError Template :=
  match TreeBuilder.empty.acceptAll table maxDepth items with
  | .error e => .error e
  | .ok b => b.finish

/-- The tree of a source. -/
def parse (table : TagTable) (maxDepth : Nat) (source : String) : Except ParseError Template :=
  build table maxDepth (Scanner.ofSource source).items

end Template

end TagTemplate
