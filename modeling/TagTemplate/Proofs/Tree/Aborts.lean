import TagTemplate.Tree.Node

/-!
# Trees without aborts

`Template.withoutAborts` takes all aborts out of a template, at every depth. What stands around an
abort stays as it is, so each node that is kept has one place among its siblings before and one
after (`KeptAt`).
-/

namespace TagTemplate

/-- The canonical name of the tag that ends a render. -/
def abortName : String := "cfabort"

/-- The node is the tag that ends a render. -/
def Node.isAbort (node : Node) : Bool :=
  match node.tag? with
  | some tag => tag.name == abortName
  | none => false

theorem exists_tag_of_isAbort {node : Node} (h : node.isAbort = true) :
    ∃ tag, node.tag? = some tag ∧ tag.name = abortName := by
  unfold Node.isAbort at h
  split at h
  · next tag htag => exact ⟨tag, htag, beq_iff_eq.mp h⟩
  · cases h

mutual

/-- The node with the aborts in it taken out. -/
def Node.withoutAborts : Node → Node
  | .block tag children => .block tag (withoutAbortsAll children)
  | node => node

/-- The siblings with the aborts among and in them taken out. -/
def withoutAbortsAll : List Node → List Node
  | [] => []
  | first :: rest =>
    if first.isAbort then withoutAbortsAll rest
    else first.withoutAborts :: withoutAbortsAll rest

end

/-- The template with all aborts taken out. -/
def Template.withoutAborts (template : Template) : Template := ⟨withoutAbortsAll template.nodes⟩

theorem tag?_withoutAborts (node : Node) : node.withoutAborts.tag? = node.tag? := by
  cases node <;> rfl

theorem withoutAbortsAll_append (nodes more : List Node) :
    withoutAbortsAll (nodes ++ more) = withoutAbortsAll nodes ++ withoutAbortsAll more := by
  induction nodes with
  | nil => rfl
  | cons first rest ih =>
    rw [List.cons_append, withoutAbortsAll, withoutAbortsAll, ih]
    split <;> rfl

/-- One node, no abort itself, stands at the first place among some siblings, and at the second
place when aborts are taken out of them. -/
def KeptAt (nodes : List Node) (place place' : Nat) : Prop :=
  ∃ before node after, nodes = before ++ node :: after ∧ node.isAbort = false ∧
    place = before.length ∧ place' = (withoutAbortsAll before).length

/-- What is found at the two places is one node, before and after. -/
theorem KeptAt.getElem? {nodes : List Node} {place place' : Nat} (h : KeptAt nodes place place') :
    ∃ node ∈ nodes, nodes[place]? = some node ∧
      (withoutAbortsAll nodes)[place']? = some node.withoutAborts := by
  obtain ⟨before, node, after, rfl, hnode, rfl, rfl⟩ := h
  refine ⟨node, by simp, by simp, ?_⟩
  rw [withoutAbortsAll_append, withoutAbortsAll, if_neg (by simp [hnode])]
  simp

end TagTemplate
