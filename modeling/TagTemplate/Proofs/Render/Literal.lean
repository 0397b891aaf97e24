import TagTemplate.Proofs.Render.Lexical

/-!
# References as text

A reference that is not replaced is put out as it stands in the source. So a template is rendered
the same when such a reference is written as text (`lexicalWalk_literalAll`). Text that begins with a
mark is not blank, so it breaks a chain of branches as a reference does, and it is no tag, so a
switch passes over it as over a reference.
-/

namespace TagTemplate

/-! ## Writing references as text -/

mutual

/-- The node with the references that are outside of the tags that replace them written as text. -/
def Node.literal (inside : Bool) : Node → Node
  | .text t => .text t
  | .interpolation expression span =>
    if inside then .interpolation expression span else .text (interpolationSource expression)
  | .void tag => .void tag
  | .block tag children => .block tag (literalAll (inside || tag.replaces) children)
termination_by structural node => node

/-- The siblings with the references that are outside written as text. -/
def literalAll (inside : Bool) : List Node → List Node
  | [] => []
  | first :: rest => first.literal inside :: literalAll inside rest
termination_by structural nodes => nodes

end

/-- The template with the references that are in no tag that replaces them written as text. -/
def Template.literal (template : Template) : Template := ⟨literalAll false template.nodes⟩

/-- A reference is not blank. -/
theorem isBlankText_interpolationSource (expression : String) :
    Text.isBlankText (interpolationSource expression) = false := by
  unfold Text.isBlankText interpolationSource
  rw [String.toList_append, String.toList_append, List.all_append, List.all_append]
  rfl

/-- The tags among some siblings stay what they are. -/
theorem map_tag?_literalAll (inside : Bool) (nodes : List Node) :
    (literalAll inside nodes).map Node.tag? = nodes.map Node.tag? := by
  induction nodes with
  | nil => rfl
  | cons first rest ih =>
    have hfirst : (first.literal inside).tag? = first.tag? := by
      cases first with
      | text t => rfl
      | interpolation expression span => cases inside <;> rfl
      | void tag => rfl
      | block tag children => rfl
    rw [literalAll, List.map_cons, List.map_cons, hfirst, ih]

/-! ## Rendering the two -/

/-- What is outside where more is written as text stays so in a tag. -/
theorem or_eq_false_of_imp {inside written replaces : Bool} (hle : written = false → inside = false)
    (h : (written || replaces) = false) : (inside || replaces) = false := by
  obtain ⟨hwritten, hreplaces⟩ := Bool.or_eq_false_iff.mp h
  exact Bool.or_eq_false_iff.mpr ⟨hle hwritten, hreplaces⟩

/-- An activation goes by the tag and the hooks alone. -/
theorem Handler.SameHooks.activate {h : Handler} {e e' : Element} (hsame : h.SameHooks e e')
    (htag : e'.tag = e.tag) (s : Surroundings) (st : RenderState) :
    h.activate e' s st = h.activate e s st := by
  unfold Handler.activate
  rw [hsame.guard, hsame.enter, hsame.body, hsame.exit, htag]

namespace Setting

variable {s : Setting}

/-- The visit of a block goes by the tag and the hooks alone. -/
theorem visit_congr {tag : Tag} {children children' : List Node}
    (hsame : ∀ h, s.registry.get? tag.name = some h →
      h.SameHooks ⟨tag, some children⟩ ⟨tag, some children'⟩) (region : Region → Render)
    (chain : Chain) (out : String) (st : RenderState) :
    s.visit ⟨tag, some children'⟩ region chain out st =
      s.visit ⟨tag, some children⟩ region chain out st := by
  have hactivation : ∀ h, s.registry.get? tag.name = some h →
      h.activateWithin ⟨tag, some children'⟩ ⟨s.limits, region, s.embed⟩ st =
        h.activateWithin ⟨tag, some children⟩ ⟨s.limits, region, s.embed⟩ st := by
    intro h hname
    unfold Handler.activateWithin
    simp only
    rw [(hsame h hname).activate rfl]
  refine visit_of_activations ?_ ?_ ?_ hactivation chain out
  · rfl
  · rfl
  · rfl

mutual

/-- A node is rendered the same when what is outside, of the node or of more, is written as text. -/
theorem lexicalNode_literal (hr : s.registry.Lexical) : (node : Node) → (inside written : Bool) →
    (written = false → inside = false) →
    s.lexicalNode inside (node.literal written) = s.lexicalNode inside node
  | .text t, _, _, _ => rfl
  | .interpolation expression span, inside, true, _ => rfl
  | .interpolation expression span, inside, false, hle => by
    funext chain out st
    rw [hle rfl, Node.literal]
    show lexicalNode s false (.text (interpolationSource expression)) chain out st = _
    rw [lexicalNode, lexicalNode, isBlankText_interpolationSource]
    rfl
  | .void tag, _, _, _ => rfl
  | .block tag children, inside, written, hle => by
    funext chain out st
    rw [Node.literal, lexicalNode, lexicalNode,
      lexicalWalk_literalAll hr children _ _ (or_eq_false_of_imp hle),
      lexicalBodies_literalAll hr children _ _ (or_eq_false_of_imp hle)]
    exact visit_congr (fun h hname => (hr tag.name h hname).sees tag children _
      (map_tag?_literalAll _ children)) _ _ _ _

/-- So are siblings. -/
theorem lexicalWalk_literalAll (hr : s.registry.Lexical) : (nodes : List Node) →
    (inside written : Bool) → (written = false → inside = false) →
    s.lexicalWalk inside (literalAll written nodes) = s.lexicalWalk inside nodes
  | [], _, _, _ => rfl
  | first :: rest, inside, written, hle => by
    funext chain out st
    rw [literalAll, lexicalWalk, lexicalWalk, lexicalNode_literal hr first inside written hle,
      lexicalWalk_literalAll hr rest inside written hle]

theorem lexicalBodyWalk_literal (hr : s.registry.Lexical) : (node : Node) →
    (inside written : Bool) → (written = false → inside = false) →
    s.lexicalBodyWalk inside (node.literal written) = s.lexicalBodyWalk inside node
  | .text t, _, _, _ => rfl
  | .interpolation expression span, _, true, _ => rfl
  | .interpolation expression span, _, false, _ => rfl
  | .void tag, _, _, _ => rfl
  | .block tag children, inside, written, hle => by
    rw [Node.literal, lexicalBodyWalk, lexicalBodyWalk]
    exact lexicalWalk_literalAll hr children _ _ (or_eq_false_of_imp hle)

theorem lexicalBodies_literalAll (hr : s.registry.Lexical) : (nodes : List Node) →
    (inside written : Bool) → (written = false → inside = false) →
    s.lexicalBodies inside (literalAll written nodes) = s.lexicalBodies inside nodes
  | [], _, _, _ => rfl
  | first :: rest, inside, written, hle => by
    rw [literalAll, lexicalBodies, lexicalBodies,
      lexicalBodyWalk_literal hr first inside written hle,
      lexicalBodies_literalAll hr rest inside written hle]

end

end Setting

end TagTemplate
