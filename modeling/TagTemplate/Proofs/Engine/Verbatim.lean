import TagTemplate.Engine
import TagTemplate.Proofs.Source.Account
import TagTemplate.Proofs.Tree.Foreign

/-!
# Sources that render to themselves

A source in which no tag is known is put out as it is, without its comments: the tree of such a
source holds text and references only, and outside of all tags a reference is put out as its source
(`Engine.render_foreign`).
-/

namespace TagTemplate

/-! ## Text and references -/

/-- What a text or a reference is rendered to. -/
def RenderState.shown (st : RenderState) : Node → String
  | .text t => t
  | .interpolation expression _ => st.interpolation expression
  | _ => ""

/-- What a row of texts and references is rendered to. -/
def RenderState.shownAll (st : RenderState) (nodes : List Node) : String :=
  String.join (nodes.map st.shown)

namespace RenderState

variable {st : RenderState} {nodes : List Node}

theorem shownAll_cons (st : RenderState) (node : Node) (nodes : List Node) :
    st.shownAll (node :: nodes) = st.shown node ++ st.shownAll nodes := String.join_cons

theorem shownAll_singleton (st : RenderState) (node : Node) : st.shownAll [node] = st.shown node :=
  (st.shownAll_cons node []).trans String.append_empty

theorem shownAll_append (st : RenderState) (nodes more : List Node) :
    st.shownAll (nodes ++ more) = st.shownAll nodes ++ st.shownAll more := by
  rw [shownAll, List.map_append, String.join_append]
  rfl

/-- Where references are not replaced, they are put out as they stand in the source. -/
theorem shownAll_of_outside (houtside : st.interpolating = false) :
    st.shownAll nodes = String.ofList (sourceOf nodes) := by
  induction nodes with
  | nil => rfl
  | cons node rest ih =>
    have hnode : st.shown node = String.ofList node.source := by
      cases node with
      | text t => exact String.ofList_toList.symm
      | interpolation expression span =>
        rw [shown, interpolation, houtside]
        exact String.ofList_toList.symm
      | void tag => rfl
      | block tag children => rfl
    rw [shownAll_cons, sourceOf_cons, String.ofList_append, hnode, ih]

end RenderState

namespace Setting

variable {s : Setting}

/-- Text and references are rendered one after the other, and change nothing. -/
theorem walk_shown {nodes : List Node} (hplain : ∀ node ∈ nodes, node.tag? = none) (chain : Chain)
    (out : String) (st : RenderState) :
    s.walk nodes chain out st = ⟨out ++ st.shownAll nodes, .ok .proceed, st⟩ := by
  induction nodes generalizing chain out with
  | nil => exact congrArg (Walk.mk · _ _) String.append_empty.symm
  | cons node rest ih =>
    obtain ⟨hnode, hrest⟩ := List.forall_mem_cons.mp hplain
    have hfirst : ∃ after, s.node node chain out st = .goesOn after (out ++ st.shown node) st := by
      cases node with
      | text t => exact ⟨_, rfl⟩
      | interpolation expression span => exact ⟨_, rfl⟩
      | void tag => cases hnode
      | block tag children => cases hnode
    obtain ⟨after, hfirst⟩ := hfirst
    rw [walk, hfirst, RenderState.shownAll_cons, ← String.append_assoc]
    exact ih hrest after (out ++ st.shown node)

/-- They are put out as they stand in the source where references are not replaced. -/
theorem walk_plain {nodes : List Node} (hplain : ∀ node ∈ nodes, node.tag? = none) (chain : Chain)
    (out : String) {st : RenderState} (houtside : st.interpolating = false) :
    s.walk nodes chain out st = ⟨out ++ String.ofList (sourceOf nodes), .ok .proceed, st⟩ := by
  rw [walk_shown hplain, RenderState.shownAll_of_outside houtside]

end Setting

namespace Engine

variable {engine : Engine} {source : String} {tokens : List Token}

/-- A source in which no tag is known has a tree, of text and references that stand for the lexemes
of its tokens. -/
theorem parse_foreign (htokens : Scanner.tokenize source = .ok tokens)
    (hforeign : ∀ token ∈ tokens, token.Foreign engine.registry.table) :
    ∃ template, engine.parse source = .ok template ∧
      (∀ node ∈ template.nodes, node.tag? = none) ∧
      sourceOf template.nodes = tokens.flatMap (·.lexeme.toList) := by
  have hitems : (Scanner.ofSource source).items = tokens.map .ok :=
    (Scanner.mapM_id_eq_ok_iff _ tokens).mp htokens
  have hverbatim : ∀ token ∈ tokens, token.Verbatim := by
    intro token htoken
    apply Scanner.verbatim_of_items
    rw [hitems]
    exact List.mem_map_of_mem htoken
  obtain ⟨b, hb, hstands⟩ :=
    TreeBuilder.standsFor_empty.acceptAll engine.limits.maxDepth hverbatim hforeign
  refine ⟨⟨b.current.reverse⟩, ?_, ?_, ?_⟩
  · rw [parse, Template.parse, hitems]
    exact Template.build_eq_ok_iff.mpr ⟨b, hb, hstands.opened, rfl⟩
  · intro node hnode
    exact hstands.plain node (List.mem_reverse.mp hnode)
  · rw [hstands.source, List.nil_append]

/-- Text and references are rendered to the characters they stand for. -/
theorem render_plain (engine : Engine) {template : Template}
    (hplain : ∀ node ∈ template.nodes, node.tag? = none) (scope : Scope) :
    engine.render template scope = ⟨.ok (String.ofList (sourceOf template.nodes)), scope⟩ := by
  have hwalk : engine.setting.walk template.nodes none "" (.start scope) =
      ⟨"" ++ String.ofList (sourceOf template.nodes), .ok .proceed, .start scope⟩ :=
    Setting.walk_plain hplain none "" rfl
  have hrun : engine.run template (.start scope) =
      (⟨String.ofList (sourceOf template.nodes), .ok .proceed⟩, .start scope) := by
    show Setting.pass _ _ = _
    simp only [Setting.pass, RenderState.start, RenderState.note] at hwalk ⊢
    rw [hwalk, String.empty_append]
  rw [render, hrun]
  rfl

/-- A source in which no tag is known renders to itself without its comments, and the variables
stay as they are. -/
theorem render_foreign (htokens : Scanner.tokenize source = .ok tokens)
    (hforeign : ∀ token ∈ tokens, ∀ name ∈ token.tagName?, engine.registry.resolve? name = none)
    (scope : Scope) :
    ∃ template comments, engine.parse source = .ok template ∧
      Account source.toList 0 source.toList.length tokens comments ∧
      engine.render template scope =
        ⟨.ok (String.ofList (deleting comments 0 source.toList)), scope⟩ ∧
      (comments = [] → engine.render template scope = ⟨.ok source, scope⟩) := by
  have htable : ∀ token ∈ tokens, token.Foreign engine.registry.table := by
    intro token htoken name hname
    rw [Registry.table, hforeign token htoken name hname]
    rfl
  obtain ⟨template, hparse, hplain, hsource⟩ := parse_foreign htokens htable
  obtain ⟨comments, haccount⟩ :=
    accounted_of_itemsAt (.start source.toList) (Scanner.tokenize_eq_ok_iff.mp htokens)
  have hlexemes : sourceOf template.nodes = deleting comments 0 source.toList := by
    rw [hsource, haccount.lexemes]
    show deleting comments 0 (slice source.toList 0 _) = _
    rw [slice_zero_length]
  have hrender := engine.render_plain hplain scope
  rw [hlexemes] at hrender
  refine ⟨template, comments, hparse, haccount, hrender, ?_⟩
  rintro rfl
  rw [hrender, deleting_nil, String.ofList_toList]

/-- A comment, an unknown tag in mixed case with a reference and a `>` in quotes, and marks,
rendered by the built-in engine. -/
theorem render_foreign_mixed : ∃ template,
    Engine.parse {} "a<!--- c ---><X  y='#b#>' />##</x >" = .ok template ∧
      Engine.render {} template .empty = ⟨.ok "a<X  y='#b#>' />##</x >", .empty⟩ := by
  have htokens : Scanner.tokenize "a<!--- c ---><X  y='#b#>' />##</x >" = .ok [
      ⟨.text "a", ⟨0, 13, 1, 1⟩, "a"⟩,
      ⟨.tagOpen "x" "y='#b#>'" true, ⟨13, 28, 1, 14⟩, "<X  y='#b#>' />"⟩,
      ⟨.interpolation "", ⟨28, 30, 1, 29⟩, "##"⟩,
      ⟨.tagClose "x", ⟨30, 35, 1, 31⟩, "</x >"⟩] := by decide +kernel
  have hx : (Engine.registry {}).resolve? "x" = none := by rfl
  obtain ⟨template, comments, hparse, haccount, hrender, -⟩ :=
    @render_foreign {} _ _ htokens (by simpa [Token.tagName?] using hx) .empty
  refine ⟨template, hparse, ?_⟩
  rw [hrender]
  have hlexemes := haccount.lexemes
  rw [slice_zero_length] at hlexemes
  rw [← hlexemes]
  rfl

end Engine

end TagTemplate
