import TagTemplate.Proofs.Tree.Building

/-!
# The tags of a tree

Each tag of a tree that was built comes from an opening tag among the tokens: it has the canonical
name that the table has for the name there, the attributes that its text denotes, and a body if the
table says so (`build_allTags`).
-/

namespace TagTemplate

/-! ## All tags -/

mutual

/-- All tags of a node have a property, which can depend on whether they enclose a body. -/
def Node.AllTags (P : Bool → Tag → Prop) : Node → Prop
  | .void tag => P false tag
  | .block tag children => P true tag ∧ AllTagsOf P children
  | _ => True

/-- All tags of some siblings have a property. -/
def AllTagsOf (P : Bool → Tag → Prop) : List Node → Prop
  | [] => True
  | first :: rest => first.AllTags P ∧ AllTagsOf P rest

end

variable {P Q : Bool → Tag → Prop}

/-- The tags of siblings are those of each of them. -/
theorem allTagsOf_iff {nodes : List Node} :
    AllTagsOf P nodes ↔ ∀ node ∈ nodes, node.AllTags P := by
  induction nodes with
  | nil => exact ⟨fun _ => List.forall_mem_nil _, fun _ => trivial⟩
  | cons first rest ih => rw [AllTagsOf, List.forall_mem_cons, ih]

mutual

theorem Node.AllTags.mono (h : ∀ hasBody tag, P hasBody tag → Q hasBody tag) : {node : Node} →
    node.AllTags P → node.AllTags Q
  | .text _, _ => trivial
  | .interpolation _ _, _ => trivial
  | .void _, htag => h _ _ htag
  | .block _ _, ⟨htag, hchildren⟩ => ⟨h _ _ htag, AllTagsOf.mono h hchildren⟩

theorem AllTagsOf.mono (h : ∀ hasBody tag, P hasBody tag → Q hasBody tag) : {nodes : List Node} →
    AllTagsOf P nodes → AllTagsOf Q nodes
  | [], _ => trivial
  | _ :: _, ⟨hfirst, hrest⟩ => ⟨Node.AllTags.mono h hfirst, AllTagsOf.mono h hrest⟩

end

mutual

/-- What is true of every tag is true of the tags of a node. -/
theorem Node.allTags_of_forall (h : ∀ hasBody tag, P hasBody tag) : (node : Node) → node.AllTags P
  | .text _ => trivial
  | .interpolation _ _ => trivial
  | .void tag => h false tag
  | .block tag children => ⟨h true tag, allTagsOf_of_forall h children⟩

theorem allTagsOf_of_forall (h : ∀ hasBody tag, P hasBody tag) : (nodes : List Node) →
    AllTagsOf P nodes
  | [] => trivial
  | first :: rest => ⟨Node.allTags_of_forall h first, allTagsOf_of_forall h rest⟩

end

mutual

/-- Two properties of all tags are one. -/
theorem Node.AllTags.and : {node : Node} → node.AllTags P → node.AllTags Q →
    node.AllTags fun hasBody tag => P hasBody tag ∧ Q hasBody tag
  | .text _, _, _ => trivial
  | .interpolation _ _, _, _ => trivial
  | .void _, hp, hq => ⟨hp, hq⟩
  | .block _ _, ⟨hp, hps⟩, ⟨hq, hqs⟩ => ⟨⟨hp, hq⟩, AllTagsOf.and hps hqs⟩

theorem AllTagsOf.and : {nodes : List Node} → AllTagsOf P nodes → AllTagsOf Q nodes →
    AllTagsOf (fun hasBody tag => P hasBody tag ∧ Q hasBody tag) nodes
  | [], _, _ => trivial
  | _ :: _, ⟨hp, hps⟩, ⟨hq, hqs⟩ => ⟨Node.AllTags.and hp hq, AllTagsOf.and hps hqs⟩

end

/-! ## Tags from tokens -/

/-- A tag that one of the tokens opens. -/
def OpenedBy (table : TagTable) (items : List (Except ScanError Token)) (hasBody : Bool)
    (tag : Tag) : Prop :=
  ∃ token selfClosing, .ok token ∈ items ∧ token.Opens table hasBody selfClosing tag

namespace TreeBuilder

variable {table : TagTable} {depth : Nat}

/-- All tags of a tree under construction have a property, those that are open included. -/
structure AllTags (P : Bool → Tag → Prop) (b : TreeBuilder) : Prop where
  current : ∀ node ∈ b.current, node.AllTags P
  opened : ∀ frame ∈ b.opened, P true frame.1 ∧ ∀ node ∈ frame.2, node.AllTags P

theorem empty_allTags : empty.AllTags P := ⟨List.forall_mem_nil _, List.forall_mem_nil _⟩

namespace AllTags

variable {b after : TreeBuilder}

theorem push (h : b.AllTags P) {node : Node} (hnode : node.AllTags P) :
    (b.push node).AllTags P :=
  ⟨List.forall_mem_cons.mpr ⟨hnode, h.current⟩, h.opened⟩

theorem pushText (h : b.AllTags P) (text : String) : (b.pushText text).AllTags P := by
  refine pushText_cases b text (fun _ => h) ?_ fun _ _ => h.push trivial
  intro previous rest _ hcurrent
  have hrest := h.current
  rw [hcurrent, List.forall_mem_cons] at hrest
  exact ⟨List.forall_mem_cons.mpr ⟨trivial, hrest.2⟩, h.opened⟩

/-- A token brings in at most the tag that it opens. -/
theorem accepts (h : b.AllTags P) {token : Token} (hb : b.Accepts table depth token after)
    (htoken : ∀ hasBody selfClosing tag, token.Opens table hasBody selfClosing tag →
      P hasBody tag) : after.AllTags P := by
  cases hb with
  | text => exact h.pushText _
  | interpolation => exact h.push trivial
  | foreign =>
    exact pushForeign_keeps (fun _ text h => h.pushText text) (fun _ _ _ h => h.push trivial) h _ _
  | void htag => exact h.push (htoken _ _ _ htag)
  | selfClosed htag => exact h.push ⟨htoken _ _ _ htag, trivial⟩
  | opened htag =>
    have hframe := And.intro (htoken _ _ _ htag) h.current
    exact ⟨List.forall_mem_nil _, List.forall_mem_cons.mpr ⟨hframe, h.opened⟩⟩
  | foreignClose => exact h.pushText _
  | voidClose => exact h
  | closed _ _ _ hopened =>
    have hframes := h.opened
    rw [hopened, List.forall_mem_cons] at hframes
    obtain ⟨⟨htag, hbefore⟩, hrest⟩ := hframes
    have hchildren : AllTagsOf P b.current.reverse :=
      allTagsOf_iff.mpr fun node hnode => h.current node (List.mem_reverse.mp hnode)
    exact ⟨List.forall_mem_cons.mpr ⟨⟨htag, hchildren⟩, hbefore⟩, hrest⟩

end AllTags

end TreeBuilder

/-- Each tag of a tree comes from an opening tag among the tokens. -/
theorem Template.build_allTags {table : TagTable} {depth : Nat}
    {items : List (Except ScanError Token)} {template : Template}
    (hok : build table depth items = .ok template) :
    AllTagsOf (OpenedBy table items) template.nodes := by
  obtain ⟨b, hb, -, rfl⟩ := build_eq_ok_iff.mp hok
  have hall : b.AllTags (OpenedBy table items) := by
    refine TreeBuilder.acceptAll_keeps ?_ TreeBuilder.empty_allTags hb
    intro token htoken b after h haccepts
    exact h.accepts haccepts fun _ selfClosing _ hopens => ⟨token, selfClosing, htoken, hopens⟩
  exact allTagsOf_iff.mpr fun node hnode => hall.current node (List.mem_reverse.mp hnode)

end TagTemplate
