import TagTemplate.Proofs.Engine.Blocks
import TagTemplate.Proofs.Engine.Limits
import TagTemplate.Proofs.Engine.Verbatim
import TagTemplate.Proofs.Source.References

/-!
# References in an output block

References are replaced in two places that share no code: between the tags of a `cfoutput` block,
where the scanner has found them, and in the values of attributes, which are expanded as texts. As
long as each pair of marks holds a reference the two agree, however the marks are arranged
(`Engine.renderSource_output`).
-/

namespace TagTemplate

/-! ## The tree of a text -/

namespace TreeBuilder

variable {st : RenderState} {b : TreeBuilder} {out : String}

/-- What has been built is text and references, which are rendered to a text. -/
structure Renders (b : TreeBuilder) (st : RenderState) (out : String) : Prop where
  opened : b.opened = []
  plain : ∀ node ∈ b.current, node.tag? = none
  shown : st.shownAll b.current.reverse = out

theorem renders_empty (st : RenderState) : empty.Renders st "" := ⟨rfl, nofun, rfl⟩

theorem Renders.push (h : b.Renders st out) {node : Node} (hnode : node.tag? = none) :
    (b.push node).Renders st (out ++ st.shown node) where
  opened := h.opened
  plain := List.forall_mem_cons.mpr ⟨hnode, h.plain⟩
  shown := by
    show st.shownAll (node :: b.current).reverse = _
    rw [List.reverse_cons, RenderState.shownAll_append, h.shown, RenderState.shownAll_singleton]

/-- Text that joins the text before it is rendered behind it all the same. -/
theorem Renders.pushText (h : b.Renders st out) (text : String) :
    (b.pushText text).Renders st (out ++ text) := by
  refine pushText_cases b text ?_ ?_ fun _ _ => h.push rfl
  · intro hempty
    rw [hempty, String.append_empty]
    exact h
  · intro previous rest _ hcurrent
    obtain ⟨hopened, hplain, hshown⟩ := h
    rw [hcurrent] at hplain hshown
    refine ⟨hopened, List.forall_mem_cons.mpr ⟨rfl, (List.forall_mem_cons.mp hplain).2⟩, ?_⟩
    rw [List.reverse_cons, RenderState.shownAll_append,
      RenderState.shownAll_singleton] at hshown ⊢
    rw [← hshown, String.append_assoc]
    rfl

/-- Tokens that are text and references are accepted, and rendered to what they come to. -/
theorem Renders.acceptAll (h : b.Renders st out) (table : TagTable) (depth : Nat)
    {items : List (Except ScanError Token)} {shown : String}
    (hfills : st.Fills (items.map Scanner.sightOf) shown) :
    ∃ after, b.acceptAll table depth items = .ok after ∧ after.Renders st (out ++ shown) := by
  induction items generalizing b out shown with
  | nil =>
    cases hfills
    exact ⟨b, rfl, String.append_empty.symm ▸ h⟩
  | cons item rest ih =>
    rcases item with error | token
    · cases hfills
    · -- text joins the text before it or not, a reference is a node: either adds what it shows
      have hstep : ∃ (next : TreeBuilder) (piece behind : String),
          b.Accepts table depth token next ∧ next.Renders st (out ++ piece) ∧
          st.Fills (rest.map Scanner.sightOf) behind ∧ shown = piece ++ behind := by
        rw [List.map_cons, Scanner.sightOf] at hfills
        generalize hkind : token.kind = kind at hfills
        cases hfills with
        | text hrest => exact ⟨_, _, _, .text hkind, h.pushText _, hrest, rfl⟩
        | interpolation hrest => exact ⟨_, _, _, .interpolation hkind, h.push rfl, hrest, rfl⟩
      obtain ⟨next, piece, behind, haccepts, hnext, hrest, rfl⟩ := hstep
      obtain ⟨after, hafter, hall⟩ := ih hnext hrest
      refine ⟨after, ?_, ?_⟩
      · rw [TreeBuilder.acceptAll, haccepts.eq]
        exact hafter
      · rwa [← String.append_assoc]

end TreeBuilder

/-- A source whose tokens are text and references has a tree, which is rendered to what the tokens
come to. -/
theorem Template.parse_of_fills {st : RenderState} {source out : String}
    (h : st.Fills (Scanner.sights [] source.toList) out) (table : TagTable) (depth : Nat) :
    ∃ template, Template.parse table depth source = .ok template ∧
      (∀ node ∈ template.nodes, node.tag? = none) ∧ st.shownAll template.nodes = out := by
  rw [← Scanner.map_sightOf_items] at h
  obtain ⟨b, hb, hrenders⟩ := (TreeBuilder.renders_empty st).acceptAll table depth h
  refine ⟨⟨b.current.reverse⟩, ?_, ?_, ?_⟩
  · exact Template.build_eq_ok_iff.mpr ⟨b, hb, hrenders.opened, rfl⟩
  · intro node hnode
    exact hrenders.plain node (List.mem_reverse.mp hnode)
  · exact hrenders.shown.trans String.empty_append

/-! ## Nodes in other places -/

theorem shown_relocate (st : RenderState) (f : Span → Span) (node : Node) :
    st.shown (node.relocate f) = st.shown node := by
  cases node with
  | _ =>
    rw [Node.relocate]
    try rfl

theorem shownAll_relocateAll (st : RenderState) (f : Span → Span) (nodes : List Node) :
    st.shownAll (relocateAll f nodes) = st.shownAll nodes := by
  rw [relocateAll_eq_map, RenderState.shownAll, List.map_map]
  exact congrArg String.join (List.map_congr_left fun node _ => shown_relocate st f node)

theorem tag?_relocate_eq_none_iff (f : Span → Span) (node : Node) :
    (node.relocate f).tag? = none ↔ node.tag? = none := by
  cases node with
  | _ => simp [Node.relocate, Node.tag?]

theorem plain_relocateAll_iff (f : Span → Span) (nodes : List Node) :
    (∀ node ∈ relocateAll f nodes, node.tag? = none) ↔ ∀ node ∈ nodes, node.tag? = none := by
  rw [relocateAll_eq_map, List.forall_mem_map]
  exact forall₂_congr fun node _ => tag?_relocate_eq_none_iff f node

/-! ## The block -/

/-- A text in an output block. -/
def outputSource (text : String) : String := "<cfoutput>" ++ text ++ "</cfoutput>"

theorem outputSource_eq (text : String) :
    outputSource text = String.ofList (blockSource "cfoutput" "cfoutput".toList text.toList) := by
  apply String.toList_inj.mp
  simp [outputSource, blockSource, closingSource, closingInside]

theorem isTagName_cfoutput : IsTagName "cfoutput" :=
  ⟨⟨by decide +kernel, by decide +kernel⟩, by decide +kernel⟩

/-- The state in which references are replaced. -/
def RenderState.replacing (st : RenderState) : RenderState := { st with interpolating := true }

/-- What is shown depends on the variables and on whether references are replaced. -/
theorem RenderState.shownAll_congr {st st' : RenderState} (hscope : st'.scope = st.scope)
    (hreplaces : st'.interpolating = st.interpolating) (nodes : List Node) :
    st'.shownAll nodes = st.shownAll nodes := by
  have hshown : ∀ node, st'.shown node = st.shown node := by
    intro node
    cases node with
    | interpolation expression span =>
      rw [shown, shown, interpolation, interpolation, hscope, hreplaces]
    | _ => rfl
  exact congrArg String.join (List.map_congr_left fun node _ => hshown node)

/-- An output block around text and references comes to what these are rendered to with references
replaced. -/
theorem Setting.node_output {s : Setting} (hs : s.Tidy) (hbuiltin : s.registry = Builtin.registry)
    {tag : Tag} (hname : tag.name = "cfoutput") {children : List Node}
    (hplain : ∀ node ∈ children, node.tag? = none) (chain : Chain) (out : String)
    {st : RenderState} (hst : st.journal = none) (hroom : st.depth < s.limits.maxDepth) :
    s.node (.block tag children) chain out st =
      .goesOn none (out ++ st.replacing.shownAll children) st := by
  let e : Element := ⟨tag, some children⟩
  have hget : s.registry.get? e.tag.name = some Builtin.output := by
    rw [hbuiltin, show e.tag.name = "cfoutput" from hname]
    rfl
  have hbody : (Builtin.output.body e).ComesTo (s.around e) (Builtin.output.inBody (st.inside e))
      (pass (s.walk children) (Builtin.output.inBody (st.inside e))) :=
    Program.rendered_comesTo (s.around e) .body _
  have hinside : pass (s.walk children) (st.inside e).replacing =
      (⟨st.replacing.shownAll children, .ok .proceed⟩, (st.inside e).replacing) := by
    have hwalk := s.walk_shown hplain none "" (st.inside e).replacing
    have hshown : (st.inside e).replacing.shownAll children = st.replacing.shownAll children :=
      RenderState.shownAll_congr rfl rfl children
    rw [String.empty_append, hshown] at hwalk
    have hinside : (st.inside e).replacing.journal = none := hst
    exact pass_of_unwatched hinside hwalk hinside
  have henclose : e.enclose Builtin.output.interpolation (pass (s.walk children)) st =
      (⟨st.replacing.shownAll children, .ok .proceed⟩, st) :=
    @Element.enclose_eq e st _ _ _ (st.inside e).replacing hinside
  have hnode := node_of_body hs chain out hget rfl (fun _ => hroom) hst
    ⟨rfl, rfl, fun _ => rfl⟩ hbody
  rw [henclose] at hnode
  exact hnode

namespace Engine

variable {loader : Loader} {limits : Limits}

/-- An output block around a source that has a tree is a block around the nodes of that tree. -/
theorem parse_outputSource {body : String} {template : Template}
    (hbody : Template.parse Builtin.registry.table 0 body = .ok template)
    (hroom : 1 ≤ limits.maxDepth) : ∃ (span : Span) (children : List Node),
      parse ⟨Builtin.registry, loader, limits⟩ (outputSource body) =
        .ok ⟨[.block ⟨"cfoutput", .empty, "", span⟩ children]⟩ ∧
      relocateAll (.down 0) children = relocateAll (.down 0) template.nodes := by
  have hopens : ∀ rest, opensTag ("cfoutput".toList ++ rest) = true :=
    opensTag_append isTagName_cfoutput.toIsWrittenName
  have hkind : Token.Kind.ofTag "cfoutput".toList = .tagOpen "cfoutput" "" false := by
    decide +kernel
  have hempty : Attributes.parse "" = .ok .empty := by decide +kernel
  obtain ⟨span, children, -, hparse, hchildren⟩ := parse_block isTagName_cfoutput.hidden hopens
    hkind hempty isTagName_cfoutput rfl hbody hroom
  refine ⟨span, children, ?_, hchildren⟩
  rw [parse, outputSource_eq]
  exact hparse

/-- A template that is such a block. -/
theorem render_output (hroom : 1 ≤ limits.maxDepth) {tag : Tag} (hname : tag.name = "cfoutput")
    {children : List Node} (hplain : ∀ node ∈ children, node.tag? = none) (scope : Scope) :
    render ⟨Builtin.registry, loader, limits⟩ ⟨[.block tag children]⟩ scope =
      ⟨.ok ((RenderState.start scope).replacing.shownAll children), scope⟩ := by
  let engine : Engine := ⟨Builtin.registry, loader, limits⟩
  have hs : engine.setting.Tidy := settingAt_tidy rfl limits.maxIncludeDepth
  have hst : (RenderState.start scope).journal = none := rfl
  have hnode := Setting.node_output hs rfl hname hplain none "" hst hroom
  have hwalk : engine.setting.walk [.block tag children] none "" (.start scope) =
      ⟨(RenderState.start scope).replacing.shownAll children, .ok .proceed, .start scope⟩ := by
    rw [Setting.walk, hnode, String.empty_append]
    rfl
  have hrun : engine.run ⟨[.block tag children]⟩ (.start scope) =
      (⟨(RenderState.start scope).replacing.shownAll children, .ok .proceed⟩, .start scope) :=
    Setting.pass_of_unwatched hst hwalk hst
  rw [render, hrun]
  rfl

/-- A source without `<` whose pairs of marks hold references is rendered to its expansion when it
stands in an output block. -/
theorem renderSource_outputSource (loader : Loader) (hroom : 1 ≤ limits.maxDepth) {text : String}
    (hlt : '<' ∉ text.toList) (hnames : ∀ name ∈ pairedNames text.toList, IsReference name)
    (scope : Scope) :
    renderSource ⟨Builtin.registry, loader, limits⟩ (outputSource text) scope =
      (.ok (scope.expandText text), scope) := by
  have hreplaces : (RenderState.start scope).replacing.interpolating = true := rfl
  have hfills := RenderState.fills_sights hreplaces [] hlt hnames
  obtain ⟨template, htemplate, hplain, hshown⟩ :=
    Template.parse_of_fills hfills Builtin.registry.table 0
  obtain ⟨span, children, hparse, hchildren⟩ := parse_outputSource htemplate hroom
  -- the children are the nodes of the text up to their places, which do not show
  have hplain' : ∀ node ∈ children, node.tag? = none := by
    rw [← plain_relocateAll_iff (.down 0), hchildren, plain_relocateAll_iff]
    exact hplain
  have hshown' : (RenderState.start scope).replacing.shownAll children = scope.expandText text := by
    rw [← shownAll_relocateAll _ (.down 0), hchildren, shownAll_relocateAll, hshown]
    exact String.empty_append
  rw [renderSource, hparse]
  dsimp only
  rw [render_output hroom rfl hplain', hshown']
  rfl

/-- References in an output block agree with the expansion of texts. Take a text without `<`, `>`
and line feeds in which no pair of marks encloses blanks only, unless it encloses nothing: between
the tags of an output block it is rendered to its expansion, and the variables stay as they are. And
each text without `<` is what the text with its marks doubled is rendered to there. -/
theorem renderSource_output (loader : Loader) {limits : Limits} (hroom : 1 ≤ limits.maxDepth)
    (scope : Scope) :
    (∀ text : String, '<' ∉ text.toList → '>' ∉ text.toList → '\n' ∉ text.toList →
      (∀ name ∈ pairedNames text.toList, name ≠ [] → ∃ c ∈ name, Text.isBlank c = false) →
      renderSource ⟨Builtin.registry, loader, limits⟩ (outputSource text) scope =
        (.ok (scope.expandText text), scope)) ∧
    ∀ text : String, '<' ∉ text.toList →
      renderSource ⟨Builtin.registry, loader, limits⟩ (outputSource (Scope.escaped text)) scope =
        (.ok text, scope) := by
  constructor
  · intro text hlt hgt hline hshows
    have hnames : ∀ name ∈ pairedNames text.toList, IsReference name := by
      refine fun name hname => ⟨fun c hc => ?_, hshows name hname⟩
      have hmem : c ∈ text.toList := mem_of_mem_pairedNames hname hc
      exact ⟨fun heq => hlt (heq ▸ hmem), fun heq => hgt (heq ▸ hmem),
        fun heq => hline (heq ▸ hmem)⟩
    exact renderSource_outputSource loader hroom hlt hnames scope
  · intro text hlt
    have hlt' : '<' ∉ (Scope.escaped text).toList := by
      rw [Scope.escaped, String.toList_ofList]
      exact mt mem_of_mem_doubledBy hlt
    have hnames : ∀ name ∈ pairedNames (Scope.escaped text).toList, IsReference name := by
      intro name hname
      rw [Scope.escaped, String.toList_ofList] at hname
      rw [pairedNames_doubledBy _ name hname]
      exact isReference_nil
    have hall := renderSource_outputSource loader hroom hlt' hnames scope
    rwa [Scope.expandText_escaped] at hall

/-- Doubled marks, a reference next to one of them whose value holds marks, and a mark that stands
alone. And a text of two lines with its marks doubled. -/
theorem renderSource_output_marks :
    let engine : Engine := ⟨Builtin.registry, Loader.none, ⟨1, 0, 1⟩⟩
    let scope : Scope := .ofList [("x", .text "z"), ("y", .text "#x#")]
    renderSource engine "<cfoutput>a##x###y# # 5</cfoutput>" scope = (.ok "a#x##x# # 5", scope) ∧
      renderSource engine "<cfoutput>##a>\n####</cfoutput>" scope = (.ok "#a>\n##", scope) := by
  intro engine scope
  have hroom : 1 ≤ engine.limits.maxDepth := by decide
  obtain ⟨hexpands, hescaped⟩ := renderSource_output Loader.none hroom scope
  have hpairs : pairedNames "a##x###y# # 5".toList = [[], [], ['y']] := by decide +kernel
  have hblank : Text.isBlank 'y' = false := by decide +kernel
  have hnames : ∀ name ∈ pairedNames "a##x###y# # 5".toList, name ≠ [] →
      ∃ c ∈ name, Text.isBlank c = false := by
    rw [hpairs]
    simp [hblank]
  have hfirst := hexpands "a##x###y# # 5" (by simp) (by simp) (by simp) hnames
  have hvalue : scope.expandText "a##x###y# # 5" = "a#x##x# # 5" := by decide +kernel
  rw [hvalue] at hfirst
  exact ⟨hfirst, hescaped "#a>\n##" (by simp)⟩

end Engine

end TagTemplate
