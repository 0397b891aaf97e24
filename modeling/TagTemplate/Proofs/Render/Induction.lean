import TagTemplate.Proofs.Tree.Shape
import TagTemplate.Proofs.Tree.Tags
import TagTemplate.Render.Walk

/-!
# Induction over a tree that is walked

A tag can have its own children rendered, and those of each of them. So a property of rows of
siblings holds of every row if it holds of the empty one, and of a row that begins with a tag when
it holds of the rest and of all that the tag can have rendered (`siblings_induction`). The walk over
a row goes by the same cases (`walk_tag`).
-/

namespace TagTemplate

namespace Element

/-- The tag among its siblings. -/
def node (e : Element) : Node :=
  match e.body with
  | none => .void e.tag
  | some children => .block e.tag children

/-- The row of siblings in a region of the tag, which is empty where there is none. -/
def row (e : Element) : Region → List Node
  | .body => e.children
  | .bodyOfChild index => (e.children[index]?.map Node.children).getD []

/-- A row in a tag is that of its children, or the children of one of them, or empty. -/
theorem row_cases (e : Element) (region : Region) :
    e.row region = e.children ∨ (∃ child ∈ e.children, e.row region = child.children) ∨
      e.row region = [] := by
  cases region with
  | body => exact .inl rfl
  | bodyOfChild index =>
    right
    simp only [row]
    cases hchild : e.children[index]? with
    | none => exact .inr rfl
    | some child => exact .inl ⟨child, List.mem_of_getElem? hchild, rfl⟩

/-- The rows of a tag depend on its children only. -/
theorem row_congr {e e' : Element} (h : e'.children = e.children) (region : Region) :
    e'.row region = e.row region := by
  cases region with
  | body => exact h
  | bodyOfChild index => rw [row, row, h]

end Element

/-! ## Properties of rows -/

theorem Node.sizeOf_children_le (node : Node) : sizeOf node.children ≤ sizeOf node := by
  cases node with
  | text t => exact Nat.le_add_right 1 _
  | interpolation expression span =>
    exact Nat.le_trans (Nat.le_add_right 1 (sizeOf expression)) (Nat.le_add_right _ _)
  | void tag => exact Nat.le_add_right 1 _
  | block tag children =>
    rw [Node.children, Node.block.sizeOf_spec]
    exact Nat.le_add_left ..

/-- Induction on rows of siblings, by the first of them. -/
@[elab_as_elim]
theorem siblings_induction {motive : List Node → Prop} (nil : motive [])
    (text : ∀ text rest, motive rest → motive (.text text :: rest))
    (interpolation : ∀ expression span rest, motive rest →
      motive (.interpolation expression span :: rest))
    (tag : ∀ (e : Element) rest, (∀ region, motive (e.row region)) → motive rest →
      motive (e.node :: rest)) : (nodes : List Node) → motive nodes
  | [] => nil
  | .text t :: rest => text t rest (siblings_induction nil text interpolation tag rest)
  | .interpolation expression span :: rest =>
    interpolation expression span rest (siblings_induction nil text interpolation tag rest)
  | .void t :: rest => by
    refine tag ⟨t, none⟩ rest (fun region => ?_)
      (siblings_induction nil text interpolation tag rest)
    cases region with
    | body => exact nil
    | bodyOfChild index => exact nil
  | .block t children :: rest => by
    refine tag ⟨t, some children⟩ rest (fun region => ?_)
      (siblings_induction nil text interpolation tag rest)
    rcases Element.row_cases ⟨t, some children⟩ region with hrow | ⟨child, hchild, hrow⟩ | hrow
    · rw [hrow]
      exact siblings_induction nil text interpolation tag children
    · -- the children of a child are two levels down, and smaller all the same
      have hmem : child ∈ children := hchild
      have hsize := List.sizeOf_lt_of_mem hmem
      have hinside := child.sizeOf_children_le
      rw [hrow]
      exact siblings_induction nil text interpolation tag child.children
    · rw [hrow]
      exact nil
termination_by nodes => sizeOf nodes
decreasing_by all_goals
  simp only [List.cons.sizeOf_spec, Node.block.sizeOf_spec] at *
  omega

variable {P : Bool → Tag → Prop}

/-- The tags of a tag are itself and those of its children. -/
theorem Element.allTags_node {e : Element} :
    e.node.AllTags P ↔ P e.body.isSome e.tag ∧ AllTagsOf P e.children := by
  rcases e with ⟨tag, _ | children⟩
  · exact ⟨fun h => ⟨h, trivial⟩, fun h => h.1⟩
  · exact Iff.rfl

/-- The tags in a row of a tag are among those of its children. -/
theorem AllTagsOf.row {e : Element} (h : AllTagsOf P e.children) (region : Region) :
    AllTagsOf P (e.row region) := by
  rcases e.row_cases region with hrow | ⟨child, hchild, hrow⟩ | hrow
  · rwa [hrow]
  · rw [hrow]
    have htags := allTagsOf_iff.mp h child hchild
    cases child with
    | block tag children => exact htags.2
    | _ => trivial
  · rw [hrow]
    trivial

/-- The blocks that nest in a row of a tag nest in the tag, and a block is one more. -/
theorem Element.heightAll_row_le (e : Element) (region : Region) :
    heightAll (e.row region) + e.body.isSome.toNat ≤ e.node.height := by
  rcases e with ⟨tag, _ | children⟩
  · -- a void tag has no rows
    cases region with
    | body => exact Nat.le_refl 0
    | bodyOfChild index => exact Nat.le_refl 0
  · apply Nat.succ_le_succ
    rcases Element.row_cases ⟨tag, some children⟩ region with hrow | ⟨child, hchild, hrow⟩ | hrow
    · rw [hrow]
      exact Nat.le_refl _
    · rw [hrow]
      refine Nat.le_trans ?_ (height_le_heightAll hchild)
      cases child with
      | block tag inner => exact Nat.le_succ _
      | _ => exact Nat.le_refl 0
    · rw [hrow]
      exact Nat.zero_le _

/-! ## Walks -/

namespace Setting

variable (s : Setting)

theorem bodies_eq_map (nodes : List Node) : s.bodies nodes = nodes.map s.bodyWalk := by
  induction nodes with
  | nil => rfl
  | cons first rest ih => rw [bodies, ih, List.map_cons]

theorem bodyWalk_eq_walk (node : Node) : s.bodyWalk node = s.walk node.children := by
  cases node with
  | _ => rfl

/-- A region of a tag is a pass over its row. -/
theorem regions_eq (e : Element) (region : Region) :
    regions (s.walk e.children) (s.bodies e.children) region = pass (s.walk (e.row region)) := by
  cases region with
  | body => rfl
  | bodyOfChild index =>
    rw [regions, bodies_eq_map, List.getElem?_map, Element.row]
    cases e.children[index]? with
    | none => rfl
    | some child => exact congrArg pass (s.bodyWalk_eq_walk child)

/-- The step over a tag is the visit of it, with passes over its rows as its regions. -/
theorem node_tag (e : Element) (chain : Chain) (out : String) (st : RenderState) :
    s.node e.node chain out st =
      s.visit e (fun region => pass (s.walk (e.row region))) chain out st := by
  have hregions : regions (s.walk e.children) (s.bodies e.children) =
      fun region => pass (s.walk (e.row region)) := funext (s.regions_eq e)
  rw [← hregions]
  rcases e with ⟨tag, _ | children⟩
  · rfl
  · rfl

/-- The walk over a row that begins with a tag visits it, and goes on with the rest. -/
theorem walk_tag (e : Element) (rest : List Node) (chain : Chain) (out : String)
    (st : RenderState) : s.walk (e.node :: rest) chain out st =
      (s.visit e (fun region => pass (s.walk (e.row region))) chain out st).andThen
        (s.walk rest) := by
  rw [← node_tag, walk]

end Setting

end TagTemplate
