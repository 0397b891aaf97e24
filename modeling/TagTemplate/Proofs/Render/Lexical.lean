import TagTemplate.Proofs.Render.Lockstep

/-!
# References by position

Whether a reference is replaced depends on where it stands in its own template: inside a `cfoutput`
or a `cfdump` it is, elsewhere it is not. The renderer does not look at the position; it has a flag
in the state, which handlers set for their bodies and which is put back after them. Here is a
renderer that goes by the position and never reads the flag (`lexicalWalk`). It does the same as the
other one wherever the flag agrees with the position, as long as the handlers of the registry are
lexical (`walk_lexical`).

By position a reference that is not replaced is text. So it can be written as text in the template
to begin with (`lexicalWalk_literalAll`).
-/

namespace TagTemplate

/-! ## The position of an interpolation -/

/-- The tags of a name have references in their bodies replaced. -/
def replacesReferences (name : String) : Bool := name == "cfoutput" || name == "cfdump"

/-- The tag has references in its body replaced. -/
def Tag.replaces (tag : Tag) : Bool := replacesReferences tag.name

/-- What takes the place of a reference: the text of the variable, nothing if it is not bound, and a
mark if there is no name. -/
def Scope.interpolate (scope : Scope) (expression : String) : String :=
  let name := Text.trim expression
  if name.isEmpty then "#"
  else match scope.get? name with
    | some value => value.display
    | none => ""

/-- The output of an interpolation inside of a tag that has references replaced, or outside. -/
def Scope.interpolateAt (scope : Scope) (inside : Bool) (expression : String) : String :=
  if inside then scope.interpolate expression else interpolationSource expression

namespace Setting

mutual

/-- Renders a node that stands inside of a tag that has references replaced, or outside. -/
def lexicalNode (s : Setting) (inside : Bool) : Node → Chain → String → RenderState → Step
  | .text t, chain, out, st => .goesOn (if Text.isBlankText t then chain else none) (out ++ t) st
  | .interpolation expression _, _, out, st =>
    .goesOn none (out ++ st.scope.interpolateAt inside expression) st
  | .void tag, chain, out, st => s.visit ⟨tag, none⟩ (regions emptyWalk []) chain out st
  | .block tag children, chain, out, st =>
    s.visit ⟨tag, some children⟩ (regions (s.lexicalWalk (inside || tag.replaces) children)
      (s.lexicalBodies (inside || tag.replaces) children)) chain out st
termination_by structural node => node

/-- Renders siblings that stand inside or outside. -/
def lexicalWalk (s : Setting) (inside : Bool) : List Node → Walker
  | [], _, out, st => ⟨out, .ok .proceed, st⟩
  | first :: rest, chain, out, st =>
    (s.lexicalNode inside first chain out st).andThen (s.lexicalWalk inside rest)
termination_by structural nodes => nodes

/-- The walk over the children of a node that stands inside or outside. -/
def lexicalBodyWalk (s : Setting) (inside : Bool) : Node → Walker
  | .block tag children => s.lexicalWalk (inside || tag.replaces) children
  | _ => emptyWalk
termination_by structural node => node

/-- The walks over the children of each of some siblings that stand inside or outside. -/
def lexicalBodies (s : Setting) (inside : Bool) : List Node → List Walker
  | [] => []
  | first :: rest => s.lexicalBodyWalk inside first :: s.lexicalBodies inside rest
termination_by structural nodes => nodes

end

end Setting

/-! ## Lexical handlers -/

/-- The requests of a tag for its own children and for other templates, and for the children of a
child that does not have references replaced. -/
def Element.Plain (e : Element) : Request → Prop
  | .render .body => True
  | .render (.bodyOfChild index) =>
    ∀ node tag, e.children[index]? = some node → node.tag? = some tag → tag.replaces = false
  | .embed _ => True

/-- A handler that treats references by position: it has references replaced in its body when its
name says so and leaves them as they are around it when not, it has nothing else rendered, and of its
children it sees the tags only. -/
structure Handler.Lexical (name : String) (h : Handler) : Prop where
  interpolation : ∀ flag, h.interpolation.getD flag = (flag || replacesReferences name)
  asks : ∀ e, h.Asks e (fun _ => False) e.Plain
  sees : ∀ tag children children', children'.map Node.tag? = children.map Node.tag? →
    h.SameHooks ⟨tag, some children⟩ ⟨tag, some children'⟩

/-- A registry of lexical handlers. -/
def Registry.Lexical (r : Registry) : Prop := ∀ name h, r.get? name = some h → h.Lexical name

/-! ## The two renderers -/

namespace Coupling

/-- Two runs that do the same. -/
def identical (limits : Limits) : Coupling limits where
  books b b' := b' = b
  journals j j' := j' = j
  forgiving := false
  same_view h := by
    rw [h]
    exact ⟨rfl, rfl⟩
  interpolate h flag := by rw [h]
  opened h _ := by rw [h]
  begins hbooks hjournals _ _ := by rw [hbooks, hjournals]
  notes hjournals _ _ := by rw [hjournals]

variable {limits : Limits} {b : Books}

theorem identical_at (st : RenderState) :
    (identical limits).At st.books st.books st st := ⟨rfl, rfl, rfl, rfl, rfl⟩

theorem identical_passing (r : Registry) : (identical limits).Passing r := nofun

variable {r : Registry} {embed embed' : String → Render}

theorem emptyWalk : (identical limits).Walkers b b Setting.emptyWalk Setting.emptyWalk :=
  fun _ _ _ _ hat _ => ⟨rfl, rfl, hat⟩

/-- What the tag of a node has rendered comes to the same by the flag and by position. -/
theorem surrounds_lexical {tag : Tag} {children : List Node} {body body' : Walker}
    {bodies bodies' : List Walker} (hembed : ∀ b path,
      (identical limits).Renders b b (embed path) (embed' path))
    (hbody : (identical limits).Walkers b b body body')
    (hbodies : ∀ index : Nat, (∀ (node : Node) (tag : Tag), children[index]? = some node →
      node.tag? = some tag → tag.replaces = false) →
    (identical limits).Walkers b b (bodies[index]?.getD Setting.emptyWalk)
        (bodies'[index]?.getD Setting.emptyWalk)) :
    (identical limits).Surrounds b b (Element.Plain ⟨tag, some children⟩)
      ⟨limits, Setting.regions body bodies, embed⟩
      ⟨limits, Setting.regions body' bodies', embed'⟩ := by
  refine ⟨fun asked hplain => ?_, fun path _ => hembed b path⟩
  cases asked with
  | body => exact hbody.pass
  | bodyOfChild index => exact (hbodies index hplain).pass

mutual

/-- The step over a node is the same by the flag and by position. -/
theorem node_lexical (hr : r.Lexical)
    (hembed : ∀ b path, (identical limits).Renders b b (embed path) (embed' path)) :
    (node : Node) → (chain : Chain) → (out : String) → (b : Books) → (st st' : RenderState) →
    (identical limits).At b b st st' →
    Step.Related ((identical limits).At b b) (Setting.node ⟨r, limits, embed⟩ node chain out st)
      (Setting.lexicalNode ⟨r, limits, embed'⟩ b.interpolating node chain out st')
  | .text t, chain, out, _, st, st', hat => .goesOn hat
  | .interpolation expression span, chain, out, b, st, st', hat => by
    have hflag : st.interpolating = b.interpolating := congrArg Books.interpolating hat.left
    have hsame : st'.scope.interpolateAt b.interpolating expression =
        st.interpolation expression := by
      rw [hat.scope, ← hflag]
      rfl
    rw [Setting.node, Setting.lexicalNode, hsame]
    exact .goesOn hat
  | .void tag, chain, out, b, st, st', hat => by
    rw [Setting.node, Setting.lexicalNode]
    have hembeds : (identical limits).Embeds b.includeDepth embed embed' := by
      intro b₁ b₂ hbooks _ path
      have heq : b₂ = b₁ := hbooks
      rw [heq]
      exact hembed b₁ path
    refine visitSame (identical_passing r) hembeds (fun b b' hbooks _ region => ?_) _ _ _ rfl hat
      nofun
    have heq : b' = b := hbooks
    rw [heq]
    -- a void tag has nothing in it
    cases region with
    | body => exact emptyWalk.pass
    | bodyOfChild index => exact emptyWalk.pass
  | .block tag children, chain, out, b, st, st', hat => by
    rw [Setting.node, Setting.lexicalNode]
    refine visit (identical_passing r) _ (fun h hname => (hr tag.name h hname).asks _)
      (fun h hname _ => ⟨⟨nofun, nofun⟩, ?_⟩) hat _ _ nofun
    -- inside the body the flag is what the position says
    have hflag : ((Element.within ⟨tag, some children⟩ b).inside h).interpolating =
        (b.interpolating || tag.replaces) := (hr tag.name h hname).interpolation _
    rw [← hflag]
    exact surrounds_lexical hembed (walk_lexical hr hembed children _)
      (bodies_lexical hr hembed children _)

/-- The walk over some siblings is the same by the flag and by position. -/
theorem walk_lexical (hr : r.Lexical)
    (hembed : ∀ b path, (identical limits).Renders b b (embed path) (embed' path)) :
    (nodes : List Node) → (b : Books) →
    (identical limits).Walkers b b (Setting.walk ⟨r, limits, embed⟩ nodes)
      (Setting.lexicalWalk ⟨r, limits, embed'⟩ b.interpolating nodes)
  | [], _, _, _, _, _, hat, _ => ⟨rfl, rfl, hat⟩
  | first :: rest, b, chain, out, st, st', hat, hbinds => by
    rw [Setting.walk] at hbinds
    rw [Setting.walk, Setting.lexicalWalk]
    exact (walk_lexical hr hembed rest b).andThen
      (fun _ => node_lexical hr hembed first chain out b st st' hat) hbinds

theorem bodies_lexical (hr : r.Lexical)
    (hembed : ∀ b path, (identical limits).Renders b b (embed path) (embed' path)) :
    (nodes : List Node) → (b : Books) → (index : Nat) →
    (∀ node tag, nodes[index]? = some node → node.tag? = some tag → tag.replaces = false) →
    (identical limits).Walkers b b
      ((Setting.bodies ⟨r, limits, embed⟩ nodes)[index]?.getD Setting.emptyWalk)
      ((Setting.lexicalBodies ⟨r, limits, embed'⟩ b.interpolating nodes)[index]?.getD
        Setting.emptyWalk)
  | [], _, _, _ => emptyWalk
  | first :: rest, b, 0, hplain => by
    have hfirst := bodyWalk_lexical hr hembed first b fun tag htag => hplain first tag rfl htag
    exact hfirst
  | first :: rest, b, index + 1, hplain => bodies_lexical hr hembed rest b index hplain

theorem bodyWalk_lexical (hr : r.Lexical)
    (hembed : ∀ b path, (identical limits).Renders b b (embed path) (embed' path)) :
    (node : Node) → (b : Books) → (∀ tag, node.tag? = some tag → tag.replaces = false) →
    (identical limits).Walkers b b (Setting.bodyWalk ⟨r, limits, embed⟩ node)
      (Setting.lexicalBodyWalk ⟨r, limits, embed'⟩ b.interpolating node)
  | .block tag children, b, hplain => by
    rw [Setting.bodyWalk, Setting.lexicalBodyWalk, hplain tag rfl, Bool.or_false]
    exact walk_lexical hr hembed children b
  | .text _, _, _ => emptyWalk
  | .interpolation _ _, _, _ => emptyWalk
  | .void _, _, _ => emptyWalk

end

end Coupling

end TagTemplate
