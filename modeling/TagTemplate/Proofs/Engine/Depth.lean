import TagTemplate.Engine
import TagTemplate.Proofs.Builtin.Errors
import TagTemplate.Proofs.Render.Transparent
import TagTemplate.Proofs.Source.Rounds
import TagTemplate.Proofs.Tree.Limit

/-!
# The two depth limits of an engine

An engine limits the depth of blocks twice. Its parser refuses a tag that opens a block when as many
are open as the limit allows, and its renderer refuses a block when it is inside so many. The two do
not count alike: a block that closes itself is never open for the parser, but it is one for the
renderer. So an engine can parse a template and refuse to render it (`tooDeep_of_selfClosing`).

How deep the tree nests decides it: within the limit no render without includes fails for the depth
of a block, and beyond it some render does (`forall_spared_iff`). The renderer needs at most one
block more than the parser (`spared_of_lt`).
-/

namespace TagTemplate.Engine

variable {engine : Engine} {template : Template} {source : String} {scope : Scope}

/-- The engines parse the same sources to the same templates. -/
def ParsesLike (engine other : Engine) : Prop :=
  engine.registry.table = other.registry.table ∧ engine.limits.maxDepth = other.limits.maxDepth

theorem ParsesLike.parse_eq {other : Engine} (h : engine.ParsesLike other) (source : String) :
    engine.parse source = other.parse source := by
  unfold parse
  rw [h.1, h.2]

/-- The render of a template includes nothing: it is the same however includes are met. -/
def IncludesNothing (engine : Engine) (template : Template) (scope : Scope) : Prop :=
  ∀ embed, Setting.pass (Setting.walk ⟨engine.registry, engine.limits, embed⟩ template.nodes)
    (.start scope) = engine.run template (.start scope)

/-- The output of a render fails for the depth of a block when the render does. -/
theorem spared_outputOf {rendered : Rendered} :
    Spared (outputOf rendered) ↔ Spared rendered.outcome := by
  unfold outputOf
  rcases rendered with ⟨text, error | flow⟩
  · exact ⟨Spared.of_error, Spared.of_error⟩
  · cases flow with
    | proceed => exact ⟨fun _ => spared_ok _, fun _ => spared_ok _⟩
    | breakLoop => exact ⟨fun _ => spared_ok _, fun _ => spared_error rfl⟩
    | abort => exact ⟨fun _ => spared_ok _, fun _ => spared_ok _⟩

/-- Meets every include with an error. -/
def refuseIncludes : String → Render := fun path st => (⟨"", .error (.unknownTag path)⟩, st)

/-- No block of a template that nests within the limit is refused. -/
theorem spared_render (hhonest : engine.registry.Honest)
    (hincludes : engine.IncludesNothing template scope)
    (hheight : heightAll template.nodes ≤ engine.limits.maxDepth) :
    Spared (engine.render template scope).outcome := by
  -- The render is the same when every include is refused, and then it is spared.
  have hsetting : Setting.Honest ⟨engine.registry, engine.limits, refuseIncludes⟩ :=
    ⟨hhonest, fun _ _ => rfl, fun _ _ => spared_error rfl⟩
  have hwalk := Setting.walk_sparedAt hsetting template.nodes (d := 0) (by rwa [Nat.zero_add])
  have hrun := hwalk.pass (.start scope) rfl
  rw [hincludes refuseIncludes] at hrun
  exact spared_outputOf.mpr hrun

/-! ## Templates that were parsed -/

/-- The engine knows the tags of a template that it parsed. -/
theorem knows_of_parse (hparse : engine.parse source = .ok template) :
    AllTagsOf engine.registry.Knows template.nodes := by
  refine (Template.build_allTags hparse).mono fun hasBody tag hopened => ?_
  obtain ⟨token, selfClosing, -, hopens⟩ := hopened
  obtain ⟨-, hname, -⟩ := hopens
  exact Registry.get?_of_table hname

/-- A template that was parsed nests at most one block deeper than the limit. -/
theorem height_le_of_parse (hparse : engine.parse source = .ok template) :
    heightAll template.nodes ≤ engine.limits.maxDepth + 1 :=
  Template.build_height hparse

/-- A renderer that allows more blocks than the parser refuses none. -/
theorem spared_of_lt {other : Engine} (hparse : other.parse source = .ok template)
    (hmore : other.limits.maxDepth < engine.limits.maxDepth) (hhonest : engine.registry.Honest)
    (hincludes : engine.IncludesNothing template scope) :
    Spared (engine.render template scope).outcome := by
  have hheight := height_le_of_parse hparse
  exact spared_render hhonest hincludes (by omega)

/-! ## The limit is exact -/

/-- The engine with transparent handlers. -/
def transparent (engine : Engine) : Engine :=
  { engine with registry := engine.registry.transparent }

theorem transparent_parsesLike (engine : Engine) : engine.transparent.ParsesLike engine :=
  ⟨engine.registry.table_transparent, rfl⟩

theorem transparent_includesNothing : engine.transparent.IncludesNothing template scope := by
  intro embed
  have hwalk : Setting.walk ⟨engine.registry.transparent, engine.limits, embed⟩ template.nodes =
      engine.transparent.setting.walk template.nodes :=
    Setting.walk_congr_embed Registry.transparent_allTransparent template.nodes
  exact congrFun (congrArg Setting.pass hwalk) (.start scope)

/-- Transparent handlers bring the renderer to the block that nests too deep. -/
theorem transparent_refused (hparse : engine.parse source = .ok template)
    (hheight : engine.limits.maxDepth < heightAll template.nodes) :
    ¬ Spared (engine.transparent.render template scope).outcome := by
  have hknows : AllTagsOf engine.transparent.registry.Knows template.nodes :=
    knows_of_parse ((engine.transparent_parsesLike.parse_eq source).trans hparse)
  have hsetting : engine.transparent.setting.Transparent :=
    ⟨Registry.transparent_allTransparent, engine.transparent.embed_restores _⟩
  obtain ⟨st, hdepth, hpass⟩ :=
    Setting.outcome_pass (engine.transparent.setting.walk template.nodes) (.start scope)
  have hrefused := hsetting.walk_refused template.nodes hknows (Nat.zero_le _)
    (by rwa [Nat.zero_add]) none "" st hdepth
  rw [← hpass] at hrefused
  exact fun h => hrefused (spared_outputOf.mp h)

/-- Among the engines that parse like a given one and have honest handlers, no render of a template
that they parse fails for the depth of a block, includes apart, if and only if the template nests
within the limit. -/
theorem forall_spared_iff (hparse : engine.parse source = .ok template) :
    (∀ other : Engine, other.ParsesLike engine → other.registry.Honest → ∀ scope,
      other.IncludesNothing template scope → Spared (other.render template scope).outcome) ↔
    heightAll template.nodes ≤ engine.limits.maxDepth := by
  constructor
  · -- transparent handlers include nothing, and with them a block that is too deep is reached
    intro hspared
    refine Nat.le_of_not_lt fun hdeep => ?_
    have hhonest := (Registry.transparent_allTransparent (r := engine.registry)).honest
    exact transparent_refused hparse hdeep
      (hspared engine.transparent engine.transparent_parsesLike hhonest .empty
        transparent_includesNothing)
  · intro hheight other hlike hhonest scope hincludes
    exact spared_render hhonest hincludes (by rw [hlike.2]; exact hheight)

/-! ## A block that closes itself -/

/-- A block that closes itself, inside another one: `<cfoutput><cfoutput/></cfoutput>`. -/
def selfClosingInside : Template :=
  ⟨[.block ⟨"cfoutput", .empty, "", ⟨0, 10, 1, 1⟩⟩
    [.block ⟨"cfoutput", .empty, "", ⟨10, 21, 1, 11⟩⟩ []]]⟩

/-- Only one of the two blocks is open while it is parsed. -/
theorem parse_selfClosingInside {limit : Nat} (h : 1 ≤ limit) :
    Engine.parse { limits := { maxDepth := limit } } "<cfoutput><cfoutput/></cfoutput>" =
      .ok selfClosingInside := by
  have hitems : Scanner.itemsAt "<cfoutput><cfoutput/></cfoutput>".toList .start =
      [.ok ⟨.tagOpen "cfoutput" "" false, ⟨0, 10, 1, 1⟩, "<cfoutput>"⟩,
        .ok ⟨.tagOpen "cfoutput" "" true, ⟨10, 21, 1, 11⟩, "<cfoutput/>"⟩,
        .ok ⟨.tagClose "cfoutput", ⟨21, 32, 1, 22⟩, "</cfoutput>"⟩] := by decide +kernel
  have hraw : Attributes.parse "" = .ok .empty := by decide +kernel
  have hname : Builtin.registry.table "cfoutput" = some ⟨"cfoutput", true⟩ := rfl
  refine Template.parse_of_le h (Template.build_eq_ok_iff.mpr
    ⟨⟨selfClosingInside.nodes.reverse, []⟩, ?_, rfl, rfl⟩)
  show TreeBuilder.acceptAll _ _ _ (Scanner.itemsAt _ .start) = _
  rw [hitems]
  simp only [TreeBuilder.acceptAll, TreeBuilder.accept, hname, hraw]
  rfl

/-- Where two blocks may be open, both are rendered, whatever the variables. -/
theorem forall_spared_iff_of_two :
    let engine : Engine := { limits := { maxDepth := 2 } }
    engine.parse "<cfoutput><cfoutput/></cfoutput>" = .ok selfClosingInside ∧
      ∀ scope, Spared (engine.render selfClosingInside scope).outcome := by
  intro engine
  have hparse := parse_selfClosingInside (by decide : 1 ≤ 2)
  refine ⟨hparse, fun scope => ?_⟩
  exact (forall_spared_iff hparse).mpr (by decide) engine ⟨rfl, rfl⟩ Builtin.registry_honest scope
    fun _ => rfl

/-- Where one block may be open, the template is parsed, but its render fails for the depth of the
inner block. -/
theorem tooDeep_of_selfClosing :
    let engine : Engine := { limits := { maxDepth := 1 } }
    engine.parse "<cfoutput><cfoutput/></cfoutput>" = .ok selfClosingInside ∧
      engine.IncludesNothing selfClosingInside .empty ∧
      (engine.render selfClosingInside .empty).outcome = .error (.tooDeep 1 1) :=
  ⟨parse_selfClosingInside (Nat.le_refl 1), fun _ => rfl, rfl⟩

end TagTemplate.Engine
