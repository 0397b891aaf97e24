import TagTemplate.Tree.Builder

/-!
# The shape of a tree

How deep the blocks of a tree nest, and which of its nodes are text. Only blocks count for the
depth: a void tag, like text, adds nothing.
-/

namespace TagTemplate

/-- The node is literal text. -/
def Node.isText : Node → Bool
  | .text _ => true
  | _ => false

mutual

/-- How many blocks nest in a node, itself counted. -/
def Node.height : Node → Nat
  | .block _ children => heightAll children + 1
  | _ => 0

/-- How many blocks nest in some siblings. -/
def heightAll : List Node → Nat
  | [] => 0
  | first :: rest => max first.height (heightAll rest)

end

theorem height_le_heightAll {node : Node} {nodes : List Node} (h : node ∈ nodes) :
    node.height ≤ heightAll nodes := by
  induction nodes with
  | nil => cases h
  | cons first rest ih =>
    rw [heightAll]
    rcases List.mem_cons.mp h with rfl | hrest
    · exact Nat.le_max_left _ _
    · exact Nat.le_trans (ih hrest) (Nat.le_max_right _ _)

/-- Siblings nest as deep as the deepest of them. -/
theorem heightAll_le_iff {nodes : List Node} {depth : Nat} :
    heightAll nodes ≤ depth ↔ ∀ node ∈ nodes, node.height ≤ depth := by
  constructor
  · intro h node hnode
    exact Nat.le_trans (height_le_heightAll hnode) h
  · intro h
    induction nodes with
    | nil => exact Nat.zero_le _
    | cons first rest ih =>
      rw [heightAll, Nat.max_le]
      exact ⟨h first (List.mem_cons_self ..), ih fun n hn => h n (List.mem_cons_of_mem _ hn)⟩

end TagTemplate
