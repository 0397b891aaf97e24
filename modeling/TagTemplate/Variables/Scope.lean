import TagTemplate.Names.NameMap
import TagTemplate.Variables.Value

/-!
# Variables

One scope holds all variables of a render, by folded name and in the order in which they were
first bound. Attribute values refer to variables between `#` marks, and expand against the scope:
`##` is a literal mark, an unbound name is nothing, and a mark without partner stays. A text that
is one reference and nothing else expands to the value itself, so that lists stay lists.
-/

namespace TagTemplate

/-- The variables of a render. -/
abbrev Scope := NameMap Value

namespace Scope

/-- A character other than the reference mark. -/
def notMark (c : Char) : Bool := c != '#'

/-- The text that a name between marks stands for. -/
def reference (scope : Scope) (name : List Char) : String :=
  match scope.get? (String.ofList (Text.trimChars name)) with
  | some value => value.display
  | none => ""

/-- The pieces of a text with its references replaced. -/
def expandPieces (scope : Scope) (cs : List Char) : List String :=
  let before := String.ofList (cs.takeWhile notMark)
  match _h : cs.dropWhile notMark with
  | [] => [before]
  | mark :: after =>
    match _hr : after.dropWhile notMark with
    | [] => [before, String.ofList (mark :: after)]
    | _ :: rest =>
      let name := after.takeWhile notMark
      before :: (if name.isEmpty then "#" else scope.reference name) :: expandPieces scope rest
termination_by cs.length
decreasing_by
  have shrinks : ∀ (ds : List Char) (c : Char) (es : List Char),
      ds.dropWhile notMark = c :: es → es.length < ds.length := by
    intro ds c es h
    have hl := congrArg List.length (List.takeWhile_append_dropWhile (p := notMark) (l := ds))
    simp only [List.length_append, h, List.length_cons] at hl
    omega
  have h1 := shrinks _ _ _ _h
  have h2 := shrinks _ _ _ _hr
  omega

/-- A text with its references replaced. -/
def expandText (scope : Scope) (text : String) : String :=
  String.join (scope.expandPieces text.toList)

/-- The name that a text refers to, when it is one reference and nothing else. -/
def soleReference? (text : String) : Option String :=
  match text.toList with
  | '#' :: rest =>
    let inner := rest.dropLast
    if rest.getLast? = some '#' && !inner.isEmpty && inner.all notMark then
      some (String.ofList (Text.trimChars inner))
    else none
  | _ => none

/-- The value of an attribute text. -/
def expand (scope : Scope) (text : String) : Value :=
  match soleReference? text with
  | some name => (scope.get? name).getD (.text "")
  | none => .text (scope.expandText text)

end Scope

end TagTemplate
