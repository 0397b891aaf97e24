import TagTemplate.Proofs.Render.Induction

/-!
# Breaks and the loops around them

A break is meant for the loop around it. `BreaksInLoops` says that each break of a tree has one
among its ancestors, which are all the nodes that enclose it. That can be told node by node
(`breaksInLoops_iff`): outside loops there is no break, and inside a loop anything goes.
-/

namespace TagTemplate

/-- The canonical name of the tag that ends the loop around it. -/
def breakName : String := "cfbreak"

/-- The canonical name of loops. -/
def loopName : String := "cfloop"

/-- The node is a tag of the name. -/
def Node.IsNamed (name : String) (node : Node) : Prop :=
  ∃ tag, node.tag? = some tag ∧ tag.name = name

/-- A node stands in a tree inside its ancestors, of which the outermost comes first. -/
inductive StandsIn : (nodes ancestors : List Node) → (node : Node) → Prop
  | root {nodes : List Node} {node : Node} (h : node ∈ nodes) : StandsIn nodes [] node
  | inside {nodes ancestors : List Node} {parent node : Node} (hparent : parent ∈ nodes)
    (h : StandsIn parent.children ancestors node) : StandsIn nodes (parent :: ancestors) node

/-- Each break of a tree has a loop among its ancestors. -/
def BreaksInLoops (nodes : List Node) : Prop :=
  ∀ ancestors node, StandsIn nodes ancestors node → node.IsNamed breakName →
    ∃ ancestor ∈ ancestors, ancestor.IsNamed loopName

/-- No root is a break, and the breaks inside a root have their loops there if it is not a loop. -/
theorem breaksInLoops_iff {nodes : List Node} :
    BreaksInLoops nodes ↔ ∀ node ∈ nodes, ¬ node.IsNamed breakName ∧
      (node.IsNamed loopName ∨ BreaksInLoops node.children) := by
  constructor
  · intro h root hroot
    refine ⟨fun hbreak => ?_, ?_⟩
    · obtain ⟨ancestor, hnone, -⟩ := h [] root (.root hroot) hbreak
      cases hnone
    · by_cases hloop : root.IsNamed loopName
      · exact .inl hloop
      · right
        intro ancestors node hnode hbreak
        obtain ⟨ancestor, hmem, hancestor⟩ := h _ node (.inside hroot hnode) hbreak
        -- the loop is not the root, so it lies inside it
        rcases List.mem_cons.mp hmem with rfl | hinner
        · exact absurd hancestor hloop
        · exact ⟨ancestor, hinner, hancestor⟩
  · intro h ancestors node hnode hbreak
    cases hnode with
    | root hroot => exact absurd hbreak (h node hroot).1
    | @inside _ ancestors parent _ hparent hnode =>
      rcases (h parent hparent).2 with hloop | hinner
      · exact ⟨parent, List.mem_cons_self, hloop⟩
      · obtain ⟨ancestor, hmem, hancestor⟩ := hinner ancestors node hnode hbreak
        exact ⟨ancestor, List.mem_cons_of_mem parent hmem, hancestor⟩

theorem breaksInLoops_nil : BreaksInLoops [] :=
  breaksInLoops_iff.mpr fun _ hnode => nomatch hnode

theorem breaksInLoops_cons {first : Node} {rest : List Node} :
    BreaksInLoops (first :: rest) ↔ (¬ first.IsNamed breakName ∧
      (first.IsNamed loopName ∨ BreaksInLoops first.children)) ∧ BreaksInLoops rest := by
  rw [breaksInLoops_iff, List.forall_mem_cons, ← breaksInLoops_iff]

/-- Inside a root that is no loop, each break still has a loop around it. -/
theorem BreaksInLoops.children {nodes : List Node} (h : BreaksInLoops nodes) {node : Node}
    (hnode : node ∈ nodes) (hloop : ¬ node.IsNamed loopName) : BreaksInLoops node.children :=
  (breaksInLoops_iff.mp h node hnode).2.resolve_left hloop

theorem Element.isNamed_node {e : Element} {name : String} :
    e.node.IsNamed name ↔ e.tag.name = name := by
  rcases e with ⟨tag, _ | children⟩
  · exact ⟨fun ⟨_, htag, hname⟩ => Option.some.inj htag ▸ hname, fun h => ⟨tag, rfl, h⟩⟩
  · exact ⟨fun ⟨_, htag, hname⟩ => Option.some.inj htag ▸ hname, fun h => ⟨tag, rfl, h⟩⟩

theorem Element.children_node (e : Element) : e.node.children = e.children := by
  rcases e with ⟨tag, _ | children⟩ <;> rfl

/-! ## Telling by the tree -/

mutual

/-- The node is no break, and it is a loop or has no break inside it that is in no loop there. -/
def Node.catchesBreaks : Node → Bool
  | .void tag => tag.name != breakName
  | .block tag children =>
    tag.name != breakName && (tag.name == loopName || catchBreaksAll children)
  | _ => true

/-- All siblings are such nodes. -/
def catchBreaksAll : List Node → Bool
  | [] => true
  | first :: rest => first.catchesBreaks && catchBreaksAll rest

end

theorem Element.catchesBreaks_node (e : Element) :
    e.node.catchesBreaks =
      (e.tag.name != breakName && (e.tag.name == loopName || catchBreaksAll e.children)) := by
  rcases e with ⟨tag, _ | children⟩
  · show (tag.name != breakName) = (tag.name != breakName && (tag.name == loopName || true))
    rw [Bool.or_true, Bool.and_true]
  · rfl

theorem catchBreaksAll_iff (nodes : List Node) :
    catchBreaksAll nodes = true ↔ BreaksInLoops nodes := by
  have hplain : ∀ {node : Node} {rest : List Node}, node.tag? = none →
      (BreaksInLoops (node :: rest) ↔ BreaksInLoops rest) := by
    intro node rest hnone
    have hname : ∀ name, ¬ node.IsNamed name := by
      rintro name ⟨tag, htag, -⟩
      rw [hnone] at htag
      cases htag
    have hchildren : node.children = [] := by cases node <;> first | rfl | cases hnone
    rw [breaksInLoops_cons, hchildren]
    exact ⟨fun h => h.2, fun h => ⟨⟨hname _, .inr breaksInLoops_nil⟩, h⟩⟩
  induction nodes using siblings_induction with
  | nil => exact ⟨fun _ => breaksInLoops_nil, fun _ => rfl⟩
  | text text rest ih =>
    rw [hplain rfl]
    exact ih
  | interpolation expression span rest ih =>
    rw [hplain rfl]
    exact ih
  | tag e rest hrows ih =>
    rw [catchBreaksAll, breaksInLoops_cons, Element.catchesBreaks_node, Bool.and_eq_true,
      Bool.and_eq_true, Bool.or_eq_true, bne_iff_ne, beq_iff_eq, Element.isNamed_node,
      Element.isNamed_node, Element.children_node]
    exact and_congr (and_congr_right' (or_congr_right (hrows .body))) ih

instance (nodes : List Node) : Decidable (BreaksInLoops nodes) :=
  decidable_of_iff _ (catchBreaksAll_iff nodes)

end TagTemplate
