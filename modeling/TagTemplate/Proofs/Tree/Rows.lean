import TagTemplate.Proofs.Tree.Building
import TagTemplate.Proofs.Tree.Printing

/-!
# The rows of a tree

A tree holds rows of siblings: its roots, and the children of each of its nodes (`RowIn`). Text that
comes next to text joins it while the tree is built, also where a comment, an unknown tag or the
closing tag of a void tag has stood between, so in no row two texts stand side by side
(`build_merged`).
-/

namespace TagTemplate

/-- The rows of siblings in a tree, from its roots. -/
inductive RowIn : (nodes row : List Node) → Prop
  | roots (nodes : List Node) : RowIn nodes nodes
  | children {nodes row : List Node} {node : Node} (hnode : node ∈ nodes)
    (h : RowIn node.children row) : RowIn nodes row

/-- All rows of a tree have a property. -/
def AllRows (P : List Node → Prop) (nodes : List Node) : Prop := ∀ row, RowIn nodes row → P row

theorem allRows_iff {P : List Node → Prop} {nodes : List Node} :
    AllRows P nodes ↔ P nodes ∧ ∀ node ∈ nodes, AllRows P node.children := by
  constructor
  · intro h
    exact ⟨h nodes (.roots nodes), fun node hnode row hrow => h row (.children hnode hrow)⟩
  · rintro ⟨hroots, hchildren⟩ row hrow
    cases hrow with
    | roots => exact hroots
    | children hnode hrow => exact hchildren _ hnode row hrow

/-! ## Texts -/

/-- A row in which no text is empty and none stands beside another. -/
structure Merged (row : List Node) : Prop where
  nonempty : ∀ node ∈ row, node ≠ .text ""
  apart : row.IsChain Node.Apart

theorem merged_nil : Merged [] := ⟨List.forall_mem_nil _, .nil⟩

theorem merged_cons_iff {first : Node} {rest : List Node} :
    Merged (first :: rest) ↔
      first ≠ .text "" ∧ (∀ next ∈ rest.head?, first.Apart next) ∧ Merged rest := by
  constructor
  · rintro ⟨hne, hapart⟩
    obtain ⟨hfirst, hrest⟩ := List.forall_mem_cons.mp hne
    rw [List.isChain_cons] at hapart
    exact ⟨hfirst, hapart.1, hrest, hapart.2⟩
  · rintro ⟨hfirst, hnext, hrest, hapart⟩
    exact ⟨List.forall_mem_cons.mpr ⟨hfirst, hrest⟩, List.isChain_cons.mpr ⟨hnext, hapart⟩⟩

/-- So it is read from the other end. -/
theorem Merged.reverse {row : List Node} (h : Merged row) : Merged row.reverse where
  nonempty node hnode := h.nonempty node (List.mem_reverse.mp hnode)
  apart := by
    rw [List.isChain_reverse]
    exact h.apart.imp fun _ _ hapart hboth => hapart ⟨hboth.2, hboth.1⟩

/-- Beside a node that is no text there can be anything. -/
theorem Merged.cons_of_not_isText {row : List Node} (h : Merged row) {node : Node}
    (hnode : node.isText = false) : Merged (node :: row) := by
  refine merged_cons_iff.mpr ⟨?_, ?_, h⟩
  · rintro rfl
    cases hnode
  · rintro next - ⟨htext, -⟩
    rw [hnode] at htext
    cases htext

theorem allRows_merged_nil : AllRows Merged [] :=
  allRows_iff.mpr ⟨merged_nil, List.forall_mem_nil _⟩

namespace TreeBuilder

variable {table : TagTable} {depth : Nat} {b after : TreeBuilder} {token : Token}

/-- No text is beside another one in any row of a tree under construction. -/
structure Merged (b : TreeBuilder) : Prop where
  current : TagTemplate.Merged b.current
  children : ∀ node ∈ b.current, AllRows TagTemplate.Merged node.children
  opened : ∀ frame ∈ b.opened, TagTemplate.Merged frame.2 ∧
    ∀ node ∈ frame.2, AllRows TagTemplate.Merged node.children

namespace Merged

theorem push (h : b.Merged) {node : Node} (hnode : node.isText = false)
    (hchildren : AllRows TagTemplate.Merged node.children) : (b.push node).Merged :=
  ⟨h.current.cons_of_not_isText hnode, List.forall_mem_cons.mpr ⟨hchildren, h.children⟩, h.opened⟩

/-- A text joins the one before it, if there is one. -/
theorem pushText (h : b.Merged) (text : String) : (b.pushText text).Merged := by
  refine pushText_cases b text (fun _ => h) ?_ ?_
  · intro previous rest hne hcurrent
    have hmerged := h.current
    have hchildren := h.children
    rw [hcurrent] at hmerged hchildren
    obtain ⟨-, hnext, hrest⟩ := merged_cons_iff.mp hmerged
    refine ⟨merged_cons_iff.mpr ⟨?_, hnext, hrest⟩, ?_, h.opened⟩
    · rw [Ne, Node.text.injEq, String.append_eq_empty_iff]
      exact fun hboth => hne hboth.2
    · obtain ⟨-, hchildren⟩ := List.forall_mem_cons.mp hchildren
      exact List.forall_mem_cons.mpr ⟨allRows_merged_nil, hchildren⟩
  · intro hne hnone
    refine ⟨merged_cons_iff.mpr ⟨?_, ?_, h.current⟩, ?_, h.opened⟩
    · rw [Ne, Node.text.injEq]
      exact hne
    · rintro next hnext ⟨-, htext⟩
      -- the latest node is no text, or the new one would have joined it
      cases next with
      | text previous =>
        obtain ⟨rest, hcurrent⟩ := List.head?_eq_some_iff.mp hnext
        exact hnone previous rest hcurrent
      | _ => cases htext
    · exact List.forall_mem_cons.mpr ⟨allRows_merged_nil, h.children⟩

theorem accepts (h : b.Merged) (hb : b.Accepts table depth token after) : after.Merged := by
  cases hb with
  | text => exact h.pushText _
  | interpolation => exact h.push rfl allRows_merged_nil
  | foreign =>
    exact pushForeign_keeps (fun _ text h => h.pushText text)
      (fun _ _ _ h => h.push rfl allRows_merged_nil) h _ _
  | void => exact h.push rfl allRows_merged_nil
  | selfClosed => exact h.push rfl allRows_merged_nil
  | opened =>
    exact ⟨merged_nil, List.forall_mem_nil _,
      List.forall_mem_cons.mpr ⟨⟨h.current, h.children⟩, h.opened⟩⟩
  | foreignClose => exact h.pushText _
  | voidClose => exact h
  | closed _ _ _ hopened =>
    have hframes := h.opened
    rw [hopened, List.forall_mem_cons] at hframes
    obtain ⟨⟨hbefore, hbeforeChildren⟩, hrest⟩ := hframes
    have hrow : AllRows TagTemplate.Merged b.current.reverse :=
      allRows_iff.mpr ⟨h.current.reverse, fun node hnode =>
        h.children node (List.mem_reverse.mp hnode)⟩
    exact ⟨hbefore.cons_of_not_isText rfl, List.forall_mem_cons.mpr ⟨hrow, hbeforeChildren⟩, hrest⟩

end Merged

end TreeBuilder

/-- No text of a tree that was built is empty or stands beside another one. -/
theorem Template.build_merged {table : TagTable} {depth : Nat}
    {items : List (Except ScanError Token)} {template : Template}
    (hok : build table depth items = .ok template) : AllRows Merged template.nodes := by
  obtain ⟨b, hb, -, rfl⟩ := build_eq_ok_iff.mp hok
  have hempty : TreeBuilder.empty.Merged :=
    ⟨merged_nil, List.forall_mem_nil _, List.forall_mem_nil _⟩
  have hmerged : b.Merged :=
    TreeBuilder.acceptAll_keeps (fun _ _ _ _ h haccepts => h.accepts haccepts) hempty hb
  exact allRows_iff.mpr ⟨hmerged.current.reverse, fun node hnode =>
    hmerged.children node (List.mem_reverse.mp hnode)⟩

end TagTemplate
