import TagTemplate.Proofs.Tree.Building
import TagTemplate.Proofs.Tree.Shape

/-!
# The depth limit of a parser

The limit does nothing but refuse: what is parsed under one limit is parsed to the same tree under
every larger one (`parse_of_le`). It bounds the number of blocks that are open while the tree is
built. A block that closes itself is never open, so it may stand inside as many as the limit allows,
and a tree can nest one block deeper than the limit (`build_height`).
-/

namespace TagTemplate

variable {table : TagTable} {depth depth' : Nat}

/-! ## Larger limits -/

namespace TreeBuilder

/-- A token that a limit lets pass is let pass by every larger one. -/
theorem Accepts.of_le (h : depth ≤ depth') {b after : TreeBuilder} {token : Token}
    (hb : b.Accepts table depth token after) : b.Accepts table depth' token after := by
  cases hb with
  | text hkind => exact .text hkind
  | interpolation hkind => exact .interpolation hkind
  | foreign hkind hname => exact .foreign hkind hname
  | void htag => exact .void htag
  | selfClosed htag => exact .selfClosed htag
  | opened htag hroom => exact .opened htag (by omega)
  | foreignClose hkind hname => exact .foreignClose hkind hname
  | voidClose hkind hname hbody => exact .voidClose hkind hname hbody
  | closed hkind hname hbody hopened hclose => exact .closed hkind hname hbody hopened hclose

/-- So are all tokens. -/
theorem acceptAll_of_le (h : depth ≤ depth') {b after : TreeBuilder}
    {items : List (Except ScanError Token)} (hok : b.acceptAll table depth items = .ok after) :
    b.acceptAll table depth' items = .ok after := by
  induction items generalizing b with
  | nil => exact hok
  | cons item rest ih =>
    cases item with
    | error e => cases hok
    | ok token =>
      rw [acceptAll] at hok ⊢
      cases haccept : b.accept table depth token with
      | error e =>
        rw [haccept] at hok
        cases hok
      | ok next =>
        rw [haccept] at hok
        rw [((accept_iff.mp haccept).of_le h).eq]
        exact ih hok

end TreeBuilder

/-- What is parsed under a limit is parsed to the same tree under every larger one. -/
theorem Template.parse_of_le (h : depth ≤ depth') {source : String} {template : Template}
    (hok : parse table depth source = .ok template) :
    parse table depth' source = .ok template := by
  obtain ⟨b, hb, hopened, htemplate⟩ := build_eq_ok_iff.mp hok
  exact build_eq_ok_iff.mpr ⟨b, TreeBuilder.acceptAll_of_le h hb, hopened, htemplate⟩

/-! ## How deep a tree can nest -/

namespace TreeBuilder

/-- Nodes inside so many blocks nest at most one block deeper than the limit. -/
def Fits (depth inside : Nat) (nodes : List Node) : Prop :=
  ∀ node ∈ nodes, node.height + inside ≤ depth + 1

/-- The nodes before each of the open tags fit. -/
def FramesFit (depth : Nat) : List (Tag × List Node) → Prop
  | [] => True
  | frame :: rest => Fits depth rest.length frame.2 ∧ FramesFit depth rest

/-- A tree under construction within a limit: so many blocks are open, and all nodes fit. -/
structure Within (depth : Nat) (b : TreeBuilder) : Prop where
  length_le : b.opened.length ≤ depth
  current : Fits depth b.opened.length b.current
  opened : FramesFit depth b.opened

namespace Within

variable {b after : TreeBuilder}

theorem push (h : b.Within depth) {node : Node} (hnode : node.height ≤ 1) :
    (b.push node).Within depth := by
  have hlength := h.length_le
  have hfits : node.height + b.opened.length ≤ depth + 1 := by omega
  exact ⟨hlength, List.forall_mem_cons.mpr ⟨hfits, h.current⟩, h.opened⟩

theorem pushText (h : b.Within depth) (text : String) : (b.pushText text).Within depth := by
  refine pushText_cases b text (fun _ => h) ?_ fun _ _ => h.push (Nat.zero_le 1)
  intro previous rest _ hcurrent
  have hfit := h.current
  rw [hcurrent] at hfit
  exact ⟨h.length_le, List.forall_mem_cons.mpr (List.forall_mem_cons.mp hfit), h.opened⟩

/-- What is accepted within the limit leaves all nodes fitting. -/
theorem accepts (h : b.Within depth) {token : Token} (hb : b.Accepts table depth token after) :
    after.Within depth := by
  have hlength := h.length_le
  cases hb with
  | text => exact h.pushText _
  | interpolation => exact h.push (Nat.zero_le 1)
  | foreign =>
    exact pushForeign_keeps (fun _ text h => h.pushText text)
      (fun _ _ _ h => h.push (Nat.zero_le 1)) h _ _
  | void => exact h.push (Nat.zero_le 1)
  | selfClosed => exact h.push (Nat.le_refl 1)
  | opened _ hroom => exact ⟨hroom, List.forall_mem_nil _, h.current, h.opened⟩
  | foreignClose => exact h.pushText _
  | voidClose => exact h
  | @closed _ _ tag before opened _ _ _ hopened =>
    have hcurrent := h.current
    have hframes := h.opened
    rw [hopened] at hlength hcurrent hframes
    rw [List.length_cons] at hlength hcurrent
    -- the children stood inside one block more than their tag does
    have hchildren : heightAll b.current.reverse ≤ depth - opened.length := by
      refine heightAll_le_iff.mpr fun node hnode => ?_
      have hnode := hcurrent node (List.mem_reverse.mp hnode)
      omega
    have hblock : (Node.block tag b.current.reverse).height + opened.length ≤ depth + 1 := by
      rw [Node.height]
      omega
    have hless : opened.length ≤ depth := by omega
    exact ⟨hless, List.forall_mem_cons.mpr ⟨hblock, hframes.1⟩, hframes.2⟩

end Within

end TreeBuilder

/-- A tree nests at most one block deeper than the limit under which it was built. -/
theorem Template.build_height {items : List (Except ScanError Token)} {template : Template}
    (hok : build table depth items = .ok template) : heightAll template.nodes ≤ depth + 1 := by
  obtain ⟨b, hb, hopened, rfl⟩ := build_eq_ok_iff.mp hok
  have hempty : TreeBuilder.empty.Within depth :=
    ⟨Nat.zero_le _, List.forall_mem_nil _, trivial⟩
  have hwithin : b.Within depth :=
    TreeBuilder.acceptAll_keeps (fun _ _ _ _ h haccepts => h.accepts haccepts) hempty hb
  have hcurrent := hwithin.current
  rw [hopened] at hcurrent
  exact heightAll_le_iff.mpr fun node hnode => hcurrent node (List.mem_reverse.mp hnode)

end TagTemplate
