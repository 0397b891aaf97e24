import TagTemplate.Proofs.Tree.Balance
import TagTemplate.Proofs.Tree.Shape

/-!
# One row of tokens after another

Tokens that make a tree leave no tag open, so the tokens that come after them find the builder as it
was at the beginning, but for the roots that are there already. What they add is what they make
alone: a text that comes first joins a text that the roots end in, and nothing else of what is there
can be seen (`TreeBuilder.behind`). So the tree of both rows is the one row of roots and the other
(`Template.build_append`).
-/

namespace TagTemplate

/-! ## Rows of roots -/

/-- A row of nodes after another. A text at the end of the one and a text at the beginning of the
other are one text. -/
def joined (before after : List Node) : List Node :=
  match before.reverse, after with
  | .text t :: rest, .text u :: after => rest.reverse ++ .text (t ++ u) :: after
  | _, _ => before ++ after

/-- The same of rows that are written from their ends. -/
def onTop : (later earlier : List Node) → List Node
  | [], earlier => earlier
  | [.text u], .text t :: earlier => .text (t ++ u) :: earlier
  | last :: rest, earlier => last :: onTop rest earlier

/-- A template with another one after it. -/
def Template.followedBy (template after : Template) : Template :=
  ⟨joined template.nodes after.nodes⟩

theorem onTop_cons_of_not_isText {last : Node} (hlast : last.isText = false)
    (rest earlier : List Node) : onTop (last :: rest) earlier = last :: onTop rest earlier := by
  cases last with
  | text t => cases hlast
  | _ => rfl

/-- Only the first of the nodes that come later can touch those that are there. -/
theorem onTop_cons_cons (last next : Node) (rest earlier : List Node) :
    onTop (last :: next :: rest) earlier = last :: onTop (next :: rest) earlier := by
  cases last with
  | text t => rfl
  | _ => rfl

theorem onTop_concat (later : List Node) (first : Node) (earlier : List Node) :
    onTop (later ++ [first]) earlier = later ++ onTop [first] earlier := by
  induction later with
  | nil => rfl
  | cons last rest ih =>
    rw [List.cons_append, List.cons_append, ← ih]
    cases rest with
    | nil => exact onTop_cons_cons last first [] earlier
    | cons next rest => exact onTop_cons_cons last next _ earlier

/-- From their ends or from their beginnings, rows are joined alike. -/
theorem reverse_onTop (before after : List Node) :
    (onTop after.reverse before.reverse).reverse = joined before after := by
  cases after with
  | nil =>
    have hjoined : joined before [] = before ++ [] := by
      unfold joined
      split
      · next h => cases h
      · rfl
    rw [hjoined, List.append_nil]
    exact List.reverse_reverse before
  | cons first rest =>
    rw [List.reverse_cons, onTop_concat, List.reverse_append, List.reverse_reverse]
    unfold joined
    split
    · next t earlier u after hbefore hafter =>
      cases hafter
      rw [hbefore]
      simp [onTop]
    · next hapart =>
      have hcons : onTop [first] before.reverse = first :: before.reverse := by
        cases first with
        | text u =>
          cases hbefore : before.reverse with
          | nil => rfl
          | cons last earlier =>
            cases last with
            | text t => exact (hapart t earlier u rest hbefore rfl).elim
            | _ => rfl
        | _ => rfl
      rw [hcons, List.reverse_cons, List.reverse_reverse, List.append_assoc]
      rfl

namespace TreeBuilder

variable {table : TagTable} {depth : Nat}

/-! ## Behind a row of roots -/

/-- A tree under construction, with some roots more before those that it has: nodes of the innermost
open tag, or roots if none is open, and the open tags. -/
def behindRow (roots : List Node) : (current : List Node) → (opened : List (Tag × List Node)) →
    TreeBuilder
  | current, [] => ⟨onTop current roots, []⟩
  | current, (tag, before) :: opened =>
    let outer := behindRow roots before opened
    ⟨current, (tag, outer.current) :: outer.opened⟩

def behind (roots : List Node) (b : TreeBuilder) : TreeBuilder := behindRow roots b.current b.opened

variable (roots : List Node) {b after : TreeBuilder} {token : Token}

theorem behind_of_opened {current before : List Node} {tag : Tag}
    {opened : List (Tag × List Node)} :
    behind roots ⟨current, (tag, before) :: opened⟩ =
      ⟨current, (tag, (behind roots ⟨before, opened⟩).current) ::
        (behind roots ⟨before, opened⟩).opened⟩ := rfl

theorem push_behind {node : Node} (hnode : node.isText = false) (b : TreeBuilder) :
    (b.push node).behind roots = (b.behind roots).push node := by
  obtain ⟨current, _ | ⟨⟨tag, before⟩, opened⟩⟩ := b
  · rw [push, behind, behindRow, onTop_cons_of_not_isText hnode]
    rfl
  · rfl

theorem pushText_behind (b : TreeBuilder) (text : String) :
    (b.pushText text).behind roots = (b.behind roots).pushText text := by
  unfold pushText
  split
  · rfl
  · obtain ⟨current, _ | ⟨⟨tag, before⟩, opened⟩⟩ := b
    · -- the text joins what is latest, or else what the roots behind it end in
      rcases current with _ | ⟨last, _ | ⟨next, rest⟩⟩
      · cases roots with
        | nil => rfl
        | cons root roots => cases root <;> rfl
      · cases last with
        | text previous =>
          cases roots with
          | nil => rfl
          | cons root roots =>
            cases root with
            | text earlier =>
              show TreeBuilder.mk (.text (earlier ++ (previous ++ text)) :: roots) [] =
                ⟨.text (earlier ++ previous ++ text) :: roots, []⟩
              rw [String.append_assoc]
            | _ => rfl
        | _ => rfl
      · cases last <;> rfl
    · rcases current with _ | ⟨last, rest⟩
      · rfl
      · cases last <;> rfl

theorem pushForeign_behind (b : TreeBuilder) (lexeme : String) (span : Span) :
    (b.pushForeign lexeme span).behind roots = (b.behind roots).pushForeign lexeme span := by
  refine (List.foldl_hom (behind roots) fun b piece => ?_).symm
  cases piece with
  | text t => exact (pushText_behind roots b t).symm
  | _ => exact (push_behind roots rfl b).symm

theorem blocks_behind (b : TreeBuilder) : (b.behind roots).blocks = b.blocks := by
  obtain ⟨current, opened⟩ := b
  induction opened generalizing current with
  | nil => rfl
  | cons frame opened ih =>
    obtain ⟨tag, before⟩ := frame
    rw [behind_of_opened, blocks, List.map_cons]
    exact congrArg (_ :: ·) (ih before)

/-- What is made of a token is made of it behind other roots. -/
theorem Accepts.behind (h : b.Accepts table depth token after) :
    (b.behind roots).Accepts table depth token (after.behind roots) := by
  cases h with
  | text hkind =>
    rw [pushText_behind]
    exact .text hkind
  | interpolation hkind =>
    rw [push_behind roots rfl]
    exact .interpolation hkind
  | foreign hkind hname =>
    rw [pushForeign_behind]
    exact .foreign hkind hname
  | void htag =>
    rw [push_behind roots rfl]
    exact .void htag
  | selfClosed htag =>
    rw [push_behind roots rfl]
    exact .selfClosed htag
  | opened htag hroom =>
    rw [← length_blocks, ← blocks_behind roots, length_blocks] at hroom
    exact .opened htag hroom
  | foreignClose hkind hname =>
    rw [pushText_behind]
    exact .foreignClose hkind hname
  | voidClose hkind hname hbody => exact .voidClose hkind hname hbody
  | @closed name info tag before opened hkind hname hbody hopened hclose =>
    obtain ⟨current, _⟩ := b
    cases hopened
    -- the block becomes a node of what is around it
    have hblock : (Node.block tag current.reverse).isText = false := rfl
    have hpush := push_behind roots hblock ⟨before, opened⟩
    rw [show TreeBuilder.mk (.block tag current.reverse :: before) opened =
      (TreeBuilder.mk before opened).push (.block tag current.reverse) from rfl, hpush]
    exact .closed hkind hname hbody rfl hclose

/-- And what is refused is refused there, for the same reason. -/
theorem accept_behind_of_error {e : ParseError} (h : b.accept table depth token = .error e) :
    (b.behind roots).accept table depth token = .error e := by
  have hoffends := offends_of_accept h
  rw [← blocks_behind roots b] at hoffends
  exact accept_of_offends hoffends

theorem acceptAll_behind (b : TreeBuilder) (items : List (Except ScanError Token)) :
    (b.behind roots).acceptAll table depth items =
      (b.acceptAll table depth items).map (TreeBuilder.behind roots) := by
  induction items generalizing b with
  | nil => rfl
  | cons item rest ih =>
    cases item with
    | error e => rfl
    | ok token =>
      rw [acceptAll, acceptAll]
      cases haccept : b.accept table depth token with
      | error e => rw [accept_behind_of_error roots haccept]; rfl
      | ok next =>
        rw [((accept_iff.mp haccept).behind roots).eq]
        exact ih next

/-- At the end, the roots come first. -/
theorem finish_behind (b : TreeBuilder) :
    (b.behind roots).finish = b.finish.map (Template.followedBy ⟨roots.reverse⟩) := by
  obtain ⟨current, _ | ⟨⟨tag, before⟩, opened⟩⟩ := b
  · have hrow := reverse_onTop roots.reverse current.reverse
    rw [List.reverse_reverse, List.reverse_reverse] at hrow
    show Except.ok (Template.mk (onTop current roots).reverse) = _
    rw [hrow]
    rfl
  · rfl

/-- All that can be wrong after the last token is that a tag is still open. -/
theorem unclosedTag_of_finish {e : ParseError} (h : b.finish = .error e) :
    ∃ name line column, e = .unclosedTag name line column := by
  unfold finish at h
  split at h
  · cases h
  · cases h
    exact ⟨_, _, _, rfl⟩

end TreeBuilder

namespace Template

variable {table : TagTable} {depth : Nat}

theorem build_eq_bind (items : List (Except ScanError Token)) :
    build table depth items =
      TreeBuilder.empty.acceptAll table depth items >>= TreeBuilder.finish := by
  unfold build
  cases TreeBuilder.empty.acceptAll table depth items with
  | error e => rfl
  | ok b => rfl

theorem build_append_eq {items : List (Except ScanError Token)} {b : TreeBuilder}
    (h : TreeBuilder.empty.acceptAll table depth items = .ok b)
    (items' : List (Except ScanError Token)) :
    build table depth (items ++ items') =
      b.acceptAll table depth items' >>= TreeBuilder.finish := by
  rw [build_eq_bind, TreeBuilder.acceptAll_append, h]
  rfl

/-- If tokens make a tree, then these and some more make the tree of these followed by the tree that
the others make alone, or fail as the others fail alone. If they fail for anything but a tag that is
left open, then they fail in the same way whatever comes after them. -/
theorem build_append (table : TagTable) (depth : Nat)
    (items items' : List (Except ScanError Token)) :
    (∀ template, build table depth items = .ok template →
      build table depth (items ++ items') =
        (build table depth items').map template.followedBy) ∧
    ∀ e, build table depth items = .error e →
      (∀ name line column, e ≠ .unclosedTag name line column) →
        build table depth (items ++ items') = .error e := by
  constructor
  · intro template h
    obtain ⟨⟨roots, _⟩, haccept, rfl, rfl⟩ := build_eq_ok_iff.mp h
    have hrest : TreeBuilder.acceptAll table depth ⟨roots, []⟩ items' = _ :=
      TreeBuilder.acceptAll_behind roots .empty items'
    rw [build_append_eq haccept, hrest, build_eq_bind]
    cases TreeBuilder.empty.acceptAll table depth items' with
    | error e => rfl
    | ok b => exact TreeBuilder.finish_behind roots b
  · intro e h hclosed
    cases haccept : TreeBuilder.empty.acceptAll table depth items with
    | error fault =>
      rw [build_eq_bind, haccept] at h
      rw [build_eq_bind, TreeBuilder.acceptAll_append, haccept]
      exact h
    | ok b =>
      rw [build_eq_bind, haccept] at h
      obtain ⟨name, line, column, rfl⟩ := TreeBuilder.unclosedTag_of_finish h
      exact (hclosed name line column rfl).elim

/-- A block and a text, with a text after them, and with a closing tag too many after or before. -/
theorem build_append_of_block :
    let table : TagTable := fun name => if name = "b" then some ⟨"b", true⟩ else none
    let opening : Token := ⟨.tagOpen "b" "" false, ⟨0, 3, 1, 1⟩, "<b>"⟩
    let closing : Token := ⟨.tagClose "b", ⟨3, 7, 1, 4⟩, "</b>"⟩
    let text : Token := ⟨.text "y", ⟨7, 8, 1, 8⟩, "y"⟩
    let items := [.ok opening, .ok closing, .ok text]
    build table 1 items = .ok ⟨[.block ⟨"b", .empty, "", ⟨0, 3, 1, 1⟩⟩ [], .text "y"]⟩ ∧
      build table 1 (items ++ [.ok text]) =
        .ok ⟨[.block ⟨"b", .empty, "", ⟨0, 3, 1, 1⟩⟩ [], .text "yy"]⟩ ∧
      build table 1 (items ++ [.ok closing]) = .error (.unexpectedClose "b" 1 4) ∧
      build table 1 ([.ok closing] ++ items) = .error (.unexpectedClose "b" 1 4) := by
  intro table opening closing text items
  have hraw : Attributes.parse "" = .ok .empty := by decide +kernel
  have hb : table "b" = some ⟨"b", true⟩ := rfl
  have hitems : build table 1 items =
      .ok ⟨[.block ⟨"b", .empty, "", ⟨0, 3, 1, 1⟩⟩ [], .text "y"]⟩ := by
    simp only [items, build, TreeBuilder.acceptAll, TreeBuilder.accept, opening, hb, hraw]
    rfl
  have hclosing : build table 1 [.ok closing] = .error (.unexpectedClose "b" 1 4) := rfl
  refine ⟨hitems, ?_, ?_, ?_⟩
  · rw [(build_append table 1 items [.ok text]).1 _ hitems]
    rfl
  · rw [(build_append table 1 items [.ok closing]).1 _ hitems, hclosing]
    rfl
  · have hother : ∀ name line column,
        ParseError.unexpectedClose "b" 1 4 ≠ .unclosedTag name line column :=
      fun _ _ _ h => by cases h
    exact (build_append table 1 [.ok closing] items).2 _ hclosing hother

end Template

end TagTemplate
