import Mathlib.Data.List.Pairwise
import TagTemplate.Proofs.Tree.Rows

/-!
# How a tree nests and where its nodes stand

A chain of nested nodes goes from a row to one inside it at each step (`Nested`). Only a block that
its opening tag leaves open has anything in it, and no more of them are open at a time than the
limit allows, so no chain of such blocks is longer (`build_nesting`). A walk through a tree meets
the places of its nodes, a tag before what it encloses (`spansAll`). Each token adds its own place
at the end of that walk, if any, so they come in the order of the source (`build_ordered`).
-/

namespace TagTemplate

/-! ## Chains of nested nodes -/

/-- Nodes of a tree of which each one lies inside the one before. -/
inductive Nested : (nodes chain : List Node) → Prop
  | nil (nodes : List Node) : Nested nodes []
  | next {nodes row chain : List Node} {node : Node} (hrow : RowIn nodes row) (hnode : node ∈ row)
    (h : Nested node.children chain) : Nested nodes (node :: chain)

/-- A chain begins with one of the roots or lies inside one of them. -/
theorem Nested.cases_root {nodes chain : List Node} (h : Nested nodes chain) :
    chain = [] ∨ ∃ root ∈ nodes, Nested root.children chain ∨
      ∃ rest, chain = root :: rest ∧ Nested root.children rest := by
  cases h with
  | nil => exact .inl rfl
  | @next _ row rest node hrow hnode h =>
    right
    cases hrow with
    | roots => exact ⟨node, hnode, .inr ⟨rest, rfl, h⟩⟩
    | @children _ _ root hroot hrow => exact ⟨root, hroot, .inl (.next hrow hnode h)⟩

/-- Chains of nodes of some kind are so short that, inside so many more, they stay within a limit.
-/
def ChainsFit (counts : Node → Prop) (limit inside : Nat) (nodes : List Node) : Prop :=
  ∀ chain, Nested nodes chain → (∀ node ∈ chain, counts node) → chain.length + inside ≤ limit

section

variable {counts : Node → Prop} {limit inside : Nat} {nodes : List Node}

theorem chainsFit_nil (h : inside ≤ limit) : ChainsFit counts limit inside [] := by
  intro chain hchain _
  rcases hchain.cases_root with rfl | ⟨root, hroot, -⟩
  · rwa [List.length_nil, Nat.zero_add]
  · cases hroot

/-- Chains fit if those inside each root fit, and have room for the root itself if it counts. -/
theorem chainsFit_iff :
    ChainsFit counts limit inside nodes ↔ inside ≤ limit ∧
      ∀ root ∈ nodes, ChainsFit counts limit inside root.children ∧
        (counts root → ChainsFit counts limit (inside + 1) root.children) := by
  constructor
  · intro h
    -- the empty chain fits
    have hinside := h [] (.nil nodes) (List.forall_mem_nil _)
    rw [List.length_nil, Nat.zero_add] at hinside
    refine ⟨hinside, fun root hroot => ⟨?_, ?_⟩⟩
    · intro chain hchain hall
      cases hchain with
      | nil => rwa [List.length_nil, Nat.zero_add]
      | next hrow hnode hrest => exact h _ (.next (.children hroot hrow) hnode hrest) hall
    · intro hcounts chain hchain hall
      have hlonger := h (root :: chain) (.next (.roots nodes) hroot hchain)
        (List.forall_mem_cons.mpr ⟨hcounts, hall⟩)
      rw [List.length_cons] at hlonger
      omega
  · rintro ⟨hinside, hroots⟩ chain hchain hall
    rcases hchain.cases_root with rfl | ⟨root, hroot, hinner | ⟨rest, rfl, hrest⟩⟩
    · rwa [List.length_nil, Nat.zero_add]
    · exact (hroots root hroot).1 chain hinner hall
    · obtain ⟨hfirst, hothers⟩ := List.forall_mem_cons.mp hall
      have hroom := (hroots root hroot).2 hfirst rest hrest hothers
      rw [List.length_cons]
      omega

theorem ChainsFit.reverse (h : ChainsFit counts limit inside nodes) :
    ChainsFit counts limit inside nodes.reverse := by
  obtain ⟨hinside, hroots⟩ := chainsFit_iff.mp h
  exact chainsFit_iff.mpr ⟨hinside, fun root hroot => hroots root (List.mem_reverse.mp hroot)⟩

/-- A root beside others that fit: what is inside it must fit, as if inside one more if it counts.
-/
theorem ChainsFit.cons (h : ChainsFit counts limit inside nodes) {root : Node}
    (hroot : ChainsFit counts limit inside root.children)
    (hcounts : counts root → ChainsFit counts limit (inside + 1) root.children) :
    ChainsFit counts limit inside (root :: nodes) := by
  obtain ⟨hinside, hroots⟩ := chainsFit_iff.mp h
  exact chainsFit_iff.mpr ⟨hinside, List.forall_mem_cons.mpr ⟨⟨hroot, hcounts⟩, hroots⟩⟩

end

namespace TreeBuilder

variable {table : TagTable} {counts : Node → Prop} {limit : Nat}

/-- Chains in the nodes before each of the open tags fit. -/
def FrameChainsFit (counts : Node → Prop) (limit : Nat) : List (Tag × List Node) → Prop
  | [] => True
  | frame :: rest =>
    TagTemplate.ChainsFit counts limit rest.length frame.2 ∧ FrameChainsFit counts limit rest

/-- A tree under construction in which all chains fit, inside the tags that are open. -/
structure ChainsFit (counts : Node → Prop) (limit : Nat) (b : TreeBuilder) : Prop where
  current : TagTemplate.ChainsFit counts limit b.opened.length b.current
  opened : FrameChainsFit counts limit b.opened

namespace ChainsFit

variable {b after : TreeBuilder}

/-- A node without children that does not count changes nothing. -/
theorem push (h : b.ChainsFit counts limit) {node : Node} (hchildren : node.children = [])
    (hnode : ¬ counts node) : (b.push node).ChainsFit counts limit := by
  have hinside := (chainsFit_iff.mp h.current).1
  refine ⟨h.current.cons ?_ fun hcounts => absurd hcounts hnode, h.opened⟩
  rw [hchildren]
  exact chainsFit_nil hinside

theorem pushText (h : b.ChainsFit counts limit) (hcounts : ∀ text, ¬ counts (.text text))
    (text : String) : (b.pushText text).ChainsFit counts limit := by
  refine pushText_cases b text (fun _ => h) ?_ fun _ _ => h.push rfl (hcounts text)
  intro previous rest _ hcurrent
  have hfit := h.current
  rw [hcurrent] at hfit
  obtain ⟨hinside, hroots⟩ := chainsFit_iff.mp hfit
  obtain ⟨-, hrest⟩ := List.forall_mem_cons.mp hroots
  have hrow := chainsFit_iff.mpr ⟨hinside, hrest⟩
  exact ⟨hrow.cons (chainsFit_nil hinside) fun h => absurd h (hcounts _), h.opened⟩

/-- What is accepted within the limit leaves all chains fitting, if only blocks count, and none that
closes itself. -/
theorem accepts (h : b.ChainsFit counts limit) {token : Token}
    (hb : b.Accepts table limit token after)
    (hcounts : ∀ node, counts node → ∃ tag children, node = .block tag children)
    (hself : ∀ tag, token.Opens table true true tag → ¬ counts (.block tag [])) :
    after.ChainsFit counts limit := by
  have htext : ∀ text, ¬ counts (.text text) := by
    intro text hcount
    obtain ⟨_, _, heq⟩ := hcounts _ hcount
    cases heq
  have hinterpolation : ∀ expression span, ¬ counts (.interpolation expression span) := by
    intro expression span hcount
    obtain ⟨_, _, heq⟩ := hcounts _ hcount
    cases heq
  have hvoid : ∀ tag, ¬ counts (.void tag) := by
    intro tag hcount
    obtain ⟨_, _, heq⟩ := hcounts _ hcount
    cases heq
  cases hb with
  | text => exact h.pushText htext _
  | interpolation => exact h.push rfl (hinterpolation _ _)
  | foreign =>
    exact pushForeign_keeps (fun _ text h => h.pushText htext text)
      (fun _ _ _ h => h.push rfl (hinterpolation _ _)) h _ _
  | void => exact h.push rfl (hvoid _)
  | selfClosed htag => exact h.push rfl (hself _ htag)
  | opened _ hroom => exact ⟨chainsFit_nil hroom, h.current, h.opened⟩
  | foreignClose => exact h.pushText htext _
  | voidClose => exact h
  | @closed _ _ tag before opened _ _ _ hopened =>
    have hcurrent := h.current.reverse
    have hframes := h.opened
    rw [hopened] at hcurrent hframes
    -- the children have stood inside one more than their tag does
    have hchildren : TagTemplate.ChainsFit counts limit opened.length b.current.reverse := by
      intro chain hchain hall
      have hroom := hcurrent chain hchain hall
      rw [List.length_cons] at hroom
      omega
    exact ⟨hframes.1.cons hchildren fun _ => hcurrent, hframes.2⟩

end ChainsFit

end TreeBuilder

/-- A block whose opening tag, found by its place among the tokens, leaves it open. -/
def LeftOpen (tokens : List Token) (node : Node) : Prop :=
  ∃ tag children, node = .block tag children ∧
    ∃ token ∈ tokens, token.span = tag.span ∧ ∃ name raw, token.kind = .tagOpen name raw false

/-- No chain of blocks that their opening tags leave open is longer than the limit. -/
theorem Template.build_nesting {table : TagTable} {limit : Nat} {tokens : List Token}
    {template : Template} (hspans : ∀ t ∈ tokens, ∀ u ∈ tokens, t.span = u.span → t = u)
    (hok : build table limit (tokens.map .ok) = .ok template) :
    ChainsFit (LeftOpen tokens) limit 0 template.nodes := by
  obtain ⟨b, hb, hopened, rfl⟩ := build_eq_ok_iff.mp hok
  have hempty : TreeBuilder.empty.ChainsFit (LeftOpen tokens) limit :=
    ⟨chainsFit_nil (Nat.zero_le _), trivial⟩
  have hfit : b.ChainsFit (LeftOpen tokens) limit := by
    refine TreeBuilder.acceptAll_keeps ?_ hempty hb
    intro token htoken b after h haccepts
    obtain ⟨_, htoken, heq⟩ := List.mem_map.mp htoken
    cases heq
    refine h.accepts haccepts (fun node ⟨tag, children, hnode, _⟩ => ⟨tag, children, hnode⟩) ?_
    rintro tag hopens ⟨_, _, heq, other, hother, hspan, name, raw, hkind⟩
    cases heq
    -- the token with the place of the tag is the one that closes itself
    obtain ⟨hplace, -, _, hselfClosing, -⟩ := hopens.eq
    rw [← hplace] at hspan
    rw [hspans other hother token htoken hspan, hselfClosing] at hkind
    cases hkind
  have hcurrent := hfit.current
  rw [hopened] at hcurrent
  exact hcurrent.reverse

/-! ## The order of the places -/

mutual

/-- The places of the tags and references in a node, a tag before what it encloses. -/
def Node.spans : Node → List Span
  | .text _ => []
  | .interpolation _ span => [span]
  | .void tag => [tag.span]
  | .block tag children => tag.span :: spansAll children

/-- The places in some siblings, from left to right. -/
def spansAll : List Node → List Span
  | [] => []
  | first :: rest => first.spans ++ spansAll rest

end

theorem spansAll_append (nodes more : List Node) :
    spansAll (nodes ++ more) = spansAll nodes ++ spansAll more := by
  induction nodes with
  | nil => rfl
  | cons first rest ih => rw [List.cons_append, spansAll, spansAll, ih, List.append_assoc]

theorem spansAll_singleton (node : Node) : spansAll [node] = node.spans := List.append_nil _

/-- Places that begin one after the other, or together. -/
def InOrder (spans : List Span) : Prop := spans.Pairwise fun s t => s.start ≤ t.start

namespace TreeBuilder

variable {table : TagTable} {depth : Nat} {b after : TreeBuilder} {token : Token}

/-- The places in the open tags, from the outermost in, each of them before what it encloses. -/
def openedSpans : List (Tag × List Node) → List Span
  | [] => []
  | frame :: rest => openedSpans rest ++ (spansAll frame.2.reverse ++ [frame.1.span])

/-- The places in a tree under construction. -/
def spans (b : TreeBuilder) : List Span := openedSpans b.opened ++ spansAll b.current.reverse

theorem spans_push (b : TreeBuilder) (node : Node) :
    (b.push node).spans = b.spans ++ node.spans := by
  show openedSpans b.opened ++ spansAll (node :: b.current).reverse = _
  rw [List.reverse_cons, spansAll_append, spansAll_singleton, ← List.append_assoc]
  rfl

theorem spans_pushText (b : TreeBuilder) (text : String) : (b.pushText text).spans = b.spans := by
  refine pushText_cases b text (fun _ => rfl) ?_ ?_
  · intro previous rest _ hcurrent
    show openedSpans b.opened ++ spansAll (.text (previous ++ text) :: rest).reverse = _
    rw [spans, hcurrent, List.reverse_cons, List.reverse_cons, spansAll_append, spansAll_append]
    rfl
  · intro _ _
    rw [spans_push]
    exact List.append_nil _

/-- The references in an unknown tag have the place of that tag. -/
theorem spans_pushForeign (b : TreeBuilder) (lexeme : String) (span : Span) :
    ∃ added, (b.pushForeign lexeme span).spans = b.spans ++ added ∧ ∀ s ∈ added, s = span := by
  unfold pushForeign
  have hkinds := foreignPieces_kinds span lexeme.toList
  generalize foreignPieces span lexeme.toList = pieces at hkinds
  induction pieces generalizing b with
  | nil => exact ⟨[], (List.append_nil _).symm, List.forall_mem_nil _⟩
  | cons piece rest ih =>
    obtain ⟨hpiece, hrest⟩ := List.forall_mem_cons.mp hkinds
    obtain ⟨added, hspans, hadded⟩ := ih (b.pushPiece piece) hrest
    rw [List.foldl_cons, hspans]
    rcases hpiece with ⟨text, rfl⟩ | ⟨expression, rfl⟩
    · refine ⟨added, ?_, hadded⟩
      rw [pushPiece, spans_pushText]
    · refine ⟨span :: added, ?_, List.forall_mem_cons.mpr ⟨rfl, hadded⟩⟩
      show (b.push _).spans ++ added = _
      rw [spans_push, List.append_assoc]
      rfl

/-- A token adds its own place at the end, any number of times. -/
theorem spans_of_accepts (hb : b.Accepts table depth token after) :
    ∃ added, after.spans = b.spans ++ added ∧ ∀ s ∈ added, s = token.span := by
  have hnone : ∃ added, b.spans = b.spans ++ added ∧ ∀ s ∈ added, s = token.span :=
    ⟨[], (List.append_nil _).symm, List.forall_mem_nil _⟩
  cases hb with
  | text =>
    rw [spans_pushText]
    exact hnone
  | interpolation => exact ⟨[token.span], spans_push b _, List.forall_mem_singleton.mpr rfl⟩
  | foreign => exact spans_pushForeign b _ _
  | void htag => exact ⟨_, spans_push b _, List.forall_mem_singleton.mpr htag.eq.1.symm⟩
  | selfClosed htag => exact ⟨_, spans_push b _, List.forall_mem_singleton.mpr htag.eq.1.symm⟩
  | @opened tag htag =>
    refine ⟨[tag.span], ?_, List.forall_mem_singleton.mpr htag.eq.1.symm⟩
    show openedSpans b.opened ++ (spansAll b.current.reverse ++ [tag.span]) ++ [] = _
    rw [List.append_nil, ← List.append_assoc]
    rfl
  | foreignClose =>
    rw [spans_pushText]
    exact hnone
  | voidClose => exact hnone
  | @closed _ _ tag before opened _ _ _ hopened =>
    -- the tag keeps its place before its children
    have hsame : spans ⟨.block tag b.current.reverse :: before, opened⟩ = b.spans := by
      show openedSpans opened ++ spansAll (.block tag b.current.reverse :: before).reverse = _
      rw [spans, hopened, openedSpans, List.reverse_cons, spansAll_append, spansAll_singleton,
        Node.spans]
      simp only [List.append_assoc, List.singleton_append]
    rw [hsame]
    exact hnone

/-- Tokens in the order of the source add their places in order. -/
theorem inOrder_of_acceptAll {tokens : List Token}
    (htokens : InOrder (tokens.map (·.span))) (hb : InOrder b.spans)
    (hbefore : ∀ s ∈ b.spans, ∀ t ∈ tokens, s.start ≤ t.span.start)
    (hok : b.acceptAll table depth (tokens.map .ok) = .ok after) : InOrder after.spans := by
  induction tokens generalizing b with
  | nil =>
    cases hok
    exact hb
  | cons token rest ih =>
    rw [List.map_cons, acceptAll] at hok
    cases haccept : b.accept table depth token with
    | error e =>
      rw [haccept] at hok
      cases hok
    | ok next =>
      rw [haccept] at hok
      obtain ⟨added, hspans, hadded⟩ := spans_of_accepts (accept_iff.mp haccept)
      obtain ⟨hfirst, hrest⟩ := List.pairwise_cons.mp htokens
      -- what was added begins where the token does: after all before it, before all after it
      refine ih hrest ?_ ?_ hok
      · rw [hspans]
        refine List.pairwise_append.mpr ⟨hb, ?_, ?_⟩
        · refine List.pairwise_of_forall_mem_list fun s hs t ht => ?_
          rw [hadded s hs, hadded t ht]
        · intro s hs t ht
          rw [hadded t ht]
          exact hbefore s hs token (List.mem_cons_self ..)
      · intro s hs t ht
        rw [hspans, List.mem_append] at hs
        rcases hs with hs | hs
        · exact hbefore s hs t (List.mem_cons_of_mem _ ht)
        · rw [hadded s hs]
          exact hfirst _ (List.mem_map_of_mem ht)

end TreeBuilder

/-- The places in a tree come in the order of the source. -/
theorem Template.build_ordered {table : TagTable} {limit : Nat} {tokens : List Token}
    {template : Template} (htokens : InOrder (tokens.map (·.span)))
    (hok : build table limit (tokens.map .ok) = .ok template) :
    InOrder (spansAll template.nodes) := by
  obtain ⟨b, hb, hopened, rfl⟩ := build_eq_ok_iff.mp hok
  have hempty : InOrder TreeBuilder.empty.spans := List.Pairwise.nil
  have hspans := TreeBuilder.inOrder_of_acceptAll htokens hempty (List.forall_mem_nil _) hb
  rw [TreeBuilder.spans, hopened] at hspans
  exact hspans

end TagTemplate
