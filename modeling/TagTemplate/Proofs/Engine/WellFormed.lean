import TagTemplate.Proofs.Builtin.Errors
import TagTemplate.Proofs.Engine.Depth
import TagTemplate.Proofs.Engine.Unrolled
import TagTemplate.Proofs.Render.Recovery
import TagTemplate.Proofs.Tree.WellFormed

/-!
# What a parsed tree can be relied on for

Whatever handlers are registered, a tree that was parsed is well formed for them. In particular all
its tags have handlers, and they keep them when more handlers are registered. Includes are parsed
with the registry that renders them, so no render of such a tree fails for a tag without a handler
(`parse_wellFormed_knowing`), unless a handler makes that error up.
-/

namespace TagTemplate

/-- The error of a tag without a handler. -/
def RenderError.isUnknownTag : RenderError → Bool
  | .unknownTag _ => true
  | _ => false

/-- The error is another one than that a tag has no handler. -/
def NotUnknownTag (e : RenderError) : Prop := e.isUnknownTag = false

/-- Tags that are known stay so when more handlers are registered. -/
theorem Registry.Knows.registerAll {r : Registry} {hasBody : Bool} {tag : Tag}
    (h : r.Knows hasBody tag) (entries : List (String × Handler)) :
    (r.registerAll entries).Knows hasBody tag := by
  obtain ⟨handler, hget⟩ := h
  apply Option.isSome_iff_exists.mp
  apply r.isSome_get?_registerAll entries
  rw [hget]
  rfl

namespace Engine

variable {engine : Engine}

/-- A template may not be had, but not for a tag without a handler. -/
theorem fetch_notUnknownTag (path : String) : FailsOnly NotUnknownTag (engine.fetch path) := by
  unfold fetch
  split
  · exact failsOnly_error rfl
  · split
    · exact failsOnly_error rfl
    · exact failsOnly_ok _

/-- A template that is included has been parsed, so all its tags have handlers. -/
theorem knows_of_fetch {path : String} {template : Template}
    (h : engine.fetch path = .ok template) : AllTagsOf engine.registry.Knows template.nodes := by
  obtain ⟨source, -, hparse⟩ := fetch_eq_ok_iff.mp h
  exact knows_of_parse hparse

/-- An include does not fail for a tag without a handler. -/
theorem embed_notUnknownTag (hr : engine.registry.FailsWithin NotUnknownTag) (budget : Nat)
    (path : String) : Render.FailsWithin NotUnknownTag (engine.embed budget path) := by
  induction budget generalizing path with
  | zero => exact fun _ => failsOnly_error rfl
  | succ budget ih =>
    intro st
    have hfetch := engine.fetch_notUnknownTag path
    rw [embed]
    split
    · exact failsOnly_error rfl
    · split
      · next e he => exact failsOnly_error (hfetch e he)
      · next template htemplate =>
        have hsetting : Setting.FailsWithin NotUnknownTag
            ⟨engine.registry, engine.limits, engine.embed budget⟩ :=
          ⟨hr, ih, fun _ _ _ => rfl, fun _ _ => rfl⟩
        have hwalk := Setting.walk_failsWithin hsetting template.nodes (knows_of_fetch htemplate)
        exact hwalk.pass { st with interpolating := false, includeDepth := st.includeDepth + 1 }

/-- Neither does a render of a template whose tags all have handlers. -/
theorem render_notUnknownTag (hr : engine.registry.FailsWithin NotUnknownTag) {template : Template}
    (htags : AllTagsOf engine.registry.Knows template.nodes) (scope : Scope) :
    FailsOnly NotUnknownTag (engine.render template scope).outcome := by
  have hsetting : engine.setting.FailsWithin NotUnknownTag :=
    ⟨hr, engine.embed_notUnknownTag hr _, fun _ _ _ => rfl, fun _ _ => rfl⟩
  have hwalk := Setting.walk_failsWithin hsetting template.nodes htags
  exact failsOnly_outputOf (hwalk.pass (.start scope)) fun _ => rfl

/-- A tree that was parsed is well formed for the registry it was parsed with. It can be rendered
with that registry, more handlers or not, and does not fail for a tag without a handler. -/
theorem parse_wellFormed_knowing (entries : List (String × Handler)) (loader : Loader)
    (limits : Limits) {source : String} {template : Template}
    (hparse : Engine.parse ⟨Registry.empty.registerAll entries, loader, limits⟩ source =
      .ok template) :
    (∃ tokens, Scanner.tokenize source = .ok tokens ∧
      template.WellFormed (Registry.empty.registerAll entries) limits.maxDepth tokens) ∧
    ∀ more loader' limits',
      ((Registry.empty.registerAll entries).registerAll more).FailsWithin NotUnknownTag →
      ∀ scope name,
        (render ⟨(Registry.empty.registerAll entries).registerAll more, loader', limits'⟩ template
          scope).outcome ≠ .error (.unknownTag name) := by
  constructor
  · have hempty : Registry.empty.names.Nodup := List.nodup_nil
    have hnames := Registry.nodup_names_registerAll hempty entries
    exact Template.parse_wellFormed hnames hparse
  · intro more loader' limits' hr scope name hunknown
    have hknows : AllTagsOf ((Registry.empty.registerAll entries).registerAll more).Knows
        template.nodes :=
      (knows_of_parse hparse).mono fun _ _ h => h.registerAll more
    -- the tree was parsed with fewer handlers than it is rendered with
    have hfails := @render_notUnknownTag
      ⟨(Registry.empty.registerAll entries).registerAll more, loader', limits'⟩ hr _ hknows scope
    cases hfails _ hunknown

/-! ## A void tag inside a block -/

/-- A void tag inside a block: `<cfoutput><cfset a="1"></cfoutput>`. -/
def voidInside : Template :=
  ⟨[.block ⟨"cfoutput", .empty, "", ⟨0, 10, 1, 1⟩⟩
    [.void ⟨"cfset", .ofList [("a", "1")], "a=\"1\"", ⟨10, 23, 1, 11⟩⟩]]⟩

/-- The tokens of that source. -/
def voidInsideTokens : List Token := [
  ⟨.tagOpen "cfoutput" "" false, ⟨0, 10, 1, 1⟩, "<cfoutput>"⟩,
  ⟨.tagOpen "cfset" "a=\"1\"" false, ⟨10, 23, 1, 11⟩, "<cfset a=\"1\">"⟩,
  ⟨.tagClose "cfoutput", ⟨23, 34, 1, 24⟩, "</cfoutput>"⟩]

theorem tokenize_voidInside :
    Scanner.tokenize "<cfoutput><cfset a=\"1\"></cfoutput>" = .ok voidInsideTokens := by
  decide +kernel

/-- One block may be open, and a void tag is none. -/
theorem parse_voidInside :
    Engine.parse { limits := { maxDepth := 1 } } "<cfoutput><cfset a=\"1\"></cfoutput>" =
      .ok voidInside := by
  have hitems := Scanner.tokenize_eq_ok_iff.mp tokenize_voidInside
  have hnone : Attributes.parse "" = .ok .empty := by decide +kernel
  have hone : Attributes.parse "a=\"1\"" = .ok (.ofList [("a", "1")]) := by decide +kernel
  have houter : Builtin.registry.table "cfoutput" = some ⟨"cfoutput", true⟩ := rfl
  have hinner : Builtin.registry.table "cfset" = some ⟨"cfset", false⟩ := rfl
  refine Template.build_eq_ok_iff.mpr ⟨⟨voidInside.nodes.reverse, []⟩, ?_, rfl, rfl⟩
  show TreeBuilder.acceptAll _ _ _ (Scanner.itemsAt _ .start) = _
  rw [hitems]
  simp only [voidInsideTokens, List.map_cons, List.map_nil, TreeBuilder.acceptAll,
    TreeBuilder.accept, houter, hinner, hnone, hone]
  rfl

/-- The built-in tags with one more, which is transparent. -/
theorem builtin_failsWithin :
    (Builtin.registry.registerAll [("note", { hasBody := true })]).FailsWithin NotUnknownTag := by
  have hkind : ∀ e, Builtin.OfTag e → NotUnknownTag e := by
    intro e he
    cases e with
    | unknownTag name => cases he
    | _ => rfl
  have hnote : Handler.Raises NotUnknownTag { hasBody := true } :=
    ⟨fun _ => trivial, fun _ => trivial, fun _ => .rendered .body, fun _ _ => trivial⟩
  have hentries : ∀ entry ∈ [("note", ({ hasBody := true } : Handler))],
      entry.2.Raises NotUnknownTag := List.forall_mem_singleton.mpr hnote
  exact Registry.Raises.failsWithin
    (Registry.of_get?_registerAll (Builtin.registry_raises.mono hkind) hentries)

/-- The void tag inside a block is rendered, also after another tag was registered. -/
theorem parse_wellFormed_knowing_of_voidInside :
    (∃ tokens, Scanner.tokenize "<cfoutput><cfset a=\"1\"></cfoutput>" = .ok tokens ∧
      voidInside.WellFormed Builtin.registry 1 tokens) ∧
    ∀ scope name, (render ⟨Builtin.registry.registerAll [("note", { hasBody := true })],
      Loader.none, {}⟩ voidInside scope).outcome ≠ .error (.unknownTag name) := by
  have h := parse_wellFormed_knowing Builtin.handlers Loader.none { maxDepth := 1 } parse_voidInside
  exact ⟨h.1, fun scope name => h.2 _ Loader.none {} builtin_failsWithin scope name⟩

/-- The void tag nests inside a block where only one tag may be open, and neither of the two closes
itself. -/
theorem chain_longer_of_voidInside :
    let engine : Engine := { limits := { maxDepth := 1 } }
    engine.parse "<cfoutput><cfset a=\"1\"></cfoutput>" = .ok voidInside ∧
      ∃ tokens chain, Scanner.tokenize "<cfoutput><cfset a=\"1\"></cfoutput>" = .ok tokens ∧
        Nested voidInside.nodes chain ∧
        (∀ node ∈ chain, ∃ tag, node.tag? = some tag ∧
          ∃ token ∈ tokens, token.span = tag.span ∧
            ∃ name raw, token.kind = .tagOpen name raw false) ∧
        engine.limits.maxDepth < chain.length := by
  intro engine
  refine ⟨parse_voidInside, voidInsideTokens,
    voidInside.nodes ++ voidInside.nodes.flatMap (·.children), tokenize_voidInside, ?_, ?_,
    Nat.lt_succ_self 1⟩
  · exact .next (.roots _) (List.mem_singleton.mpr rfl)
      (.next (.roots _) (List.mem_singleton.mpr rfl) (.nil _))
  · refine List.forall_mem_cons.mpr ⟨?_, List.forall_mem_singleton.mpr ?_⟩
    · exact ⟨_, rfl, _, List.mem_cons_self .., rfl, _, _, rfl⟩
    · exact ⟨_, rfl, _, List.mem_cons_of_mem _ (List.mem_cons_self ..), rfl, _, _, rfl⟩

end Engine

end TagTemplate
