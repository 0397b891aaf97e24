import TagTemplate.Proofs.Engine.Limits
import TagTemplate.Proofs.Engine.Relocation
import TagTemplate.Proofs.Handler.Recipes
import TagTemplate.Proofs.Handler.Registry
import TagTemplate.Proofs.Source.Renaming

/-!
# Tags by any of their names

A name in a source refers to a handler: it is the canonical name of it, in any letter case, or one
that the handler answers to. By which of them a tag is called makes no difference to the tree of the
source, but for the places within lines, and none at all to what it is rendered to unless a handler
looks at these places (`Engine.render_renamed`, `Engine.column_of_renamed`).
-/

namespace TagTemplate

variable {r : Registry} {name name' : String}

/-- Two names in a source that refer to the handler of the same canonical name. -/
def Registry.SameTag (r : Registry) (name name' : String) : Prop :=
  ∃ canonical handler handler', r.resolve? name = some (canonical, handler) ∧
    r.resolve? name' = some (canonical, handler')

theorem Registry.SameTag.of_map {canonical : String}
    (h : (r.resolve? name).map Prod.fst = some canonical)
    (h' : (r.resolve? name').map Prod.fst = some canonical) : r.SameTag name name' := by
  obtain ⟨⟨_, handler⟩, hresolve, rfl⟩ := Option.map_eq_some_iff.mp h
  obtain ⟨⟨_, handler'⟩, hresolve', rfl⟩ := Option.map_eq_some_iff.mp h'
  exact ⟨_, handler, handler', hresolve, hresolve'⟩

/-- Where each name is registered once, both names are of one tag. -/
theorem Registry.SameTag.table (hnames : r.names.Nodup) (h : r.SameTag name name') :
    r.table.SameTag name name' := by
  obtain ⟨canonical, handler, handler', hresolve, hresolve'⟩ := h
  have hget := Registry.get?_of_resolve? hnames hresolve
  rw [Registry.get?_of_resolve? hnames hresolve', Option.some.injEq] at hget
  subst hget
  refine ⟨⟨canonical, handler'.hasBody⟩, ?_, ?_⟩
  · rw [Registry.table, hresolve]
    rfl
  · rw [Registry.table, hresolve']
    rfl

theorem Scanner.Renamed.mono {same same' : String → String → Prop} {rest rest' : List Char}
    (hsame : ∀ name name', same name name' → same' name name') (h : Renamed same rest rest') :
    Renamed same' rest rest' := by
  induction h with
  | done => exact .done
  | past hpassed h ih => exact .past hpassed ih
  | tag hname hname' hmore hnames hclose h ih =>
    exact .tag hname hname' hmore (hsame _ _ hnames) hclose ih

namespace Engine

/-- Let a source have a tree, and let the names of any of its tags be replaced by names that refer
to the same canonical names. Then it has the same tree again, but for the places within lines. If no
handler sees more of a place than its line, both trees are rendered to the same report; they come to
the same as well where hooks ask for other rows, which are the same again but for such places. -/
theorem render_renamed (entries : List (String × Handler)) (loader : Loader) (limits : Limits)
    {source source' : String} {template : Template} :
    let engine : Engine := ⟨Registry.empty.registerAll entries, loader, limits⟩
    Scanner.Renamed engine.registry.SameTag source.toList source'.toList →
    engine.parse source = .ok template →
    ∃ template', engine.parse source' = .ok template' ∧
      relocateAll (.down 0) template'.nodes = relocateAll (.down 0) template.nodes ∧
      ((∀ entry ∈ entries, entry.2.IgnoresPlaces (.down 0)) →
        (∀ scope, engine.render template' scope = engine.render template scope) ∧
        ∀ stands stands' budget scope,
          (∀ name, (stands' name).relocate (.down 0) = (stands name).relocate (.down 0)) →
          engine.hosted stands' budget template' (.start scope) =
            engine.hosted stands budget template (.start scope)) := by
  intro engine hrenamed hparse
  have hempty : Registry.empty.names.Nodup := List.nodup_nil
  have hnames : engine.registry.names.Nodup := Registry.nodup_names_registerAll hempty entries
  have htable := hrenamed.mono fun _ _ hsame => hsame.table hnames
  have hstart : Position.start.Below 0 .start := rfl
  obtain ⟨template', hparse', hnodes⟩ := Template.build_renamed (htable.itemsAt hstart) hparse
  refine ⟨template', hparse', hnodes, fun hentries => ?_⟩
  have hnone : ∀ name h, Registry.empty.get? name = some h → h.IgnoresPlaces (.down 0) := by
    intro name h hget
    cases hget
  have hplaces := Registry.of_get?_registerAll hnone hentries
  exact ⟨render_alike hplaces hnodes, fun _ _ budget scope hstands =>
    hosted_alike hplaces hnodes hstands budget scope⟩

/-- A tag by recipe, called by its bare name and in other letters, around a reference. Hooks may ask
for the row of the whole template, which has other places in the second source. -/
theorem render_renamed_of_recipe :
    let recipe : Recipe :=
      { bareNames := ["yell"], interpolation := some true, finish := some .upper }
    let entries := Builtin.handlers ++ [("shout", recipe.toHandler)]
    let engine : Engine := ⟨Registry.empty.registerAll entries, Loader.none, {}⟩
    let source := "<shout note='a>b'>#x#</shout>"
    let source' := "<YELL note='a>b'>#x#</Shout>"
    ∃ template template', engine.parse source = .ok template ∧
      engine.parse source' = .ok template' ∧
      relocateAll (.down 0) template'.nodes = relocateAll (.down 0) template.nodes ∧
      (∀ scope, engine.render template' scope = engine.render template scope) ∧
      ∀ budget scope,
        engine.hosted (fun _ => .row template'.nodes) budget template' (.start scope) =
          engine.hosted (fun _ => .row template.nodes) budget template (.start scope) := by
  intro recipe entries engine source source'
  have hwritten : IsWrittenName "shout" := ⟨by decide +kernel, by decide +kernel⟩
  have hbare : IsWrittenName "YELL" := ⟨by decide +kernel, by decide +kernel⟩
  have hmixed : IsWrittenName "Shout" := ⟨by decide +kernel, by decide +kernel⟩
  have hcapitals : engine.registry.SameTag (Text.foldAscii "shout") (Text.foldAscii "YELL") :=
    .of_map (by decide +kernel : _ = some "shout") (by decide +kernel)
  have hletters : engine.registry.SameTag (Text.foldAscii "shout") (Text.foldAscii "Shout") :=
    .of_map (by decide +kernel : _ = some "shout") (by decide +kernel)
  have hclosing : Scanner.Renamed engine.registry.SameTag "</shout>".toList "</Shout>".toList :=
    @Scanner.Renamed.tag _ true "shout" "Shout" [] [] [] hwritten hmixed rfl hletters
      (by decide +kernel) .done
  have hreference : Scanner.Renamed engine.registry.SameTag "#x#</shout>".toList
      "#x#</Shout>".toList :=
    @Scanner.Renamed.past _ '#' "x#".toList _ _ (by decide +kernel) hclosing
  have hrenamed : Scanner.Renamed engine.registry.SameTag
      "<shout note='a>b'>#x#</shout>".toList "<YELL note='a>b'>#x#</Shout>".toList :=
    @Scanner.Renamed.tag _ false "shout" "YELL" " note='a>b'".toList _ _ hwritten hbare rfl
      hcapitals (by decide +kernel) hreference
  have hline : ∀ span, (Span.down 0 span).line = span.line := fun _ => rfl
  have hplaces : ∀ entry ∈ entries, entry.2.IgnoresPlaces (.down 0) :=
    List.forall_mem_append.mpr ⟨Builtin.handlers_ignorePlaces hline,
      List.forall_mem_singleton.mpr (recipe.toHandler_ignoresPlaces hline)⟩
  have hparses : (engine.parse source).isOk = true := by decide +kernel
  cases hparse : engine.parse source with
  | error e =>
    rw [hparse] at hparses
    cases hparses
  | ok template =>
    obtain ⟨template', hparse', hnodes, hrenders⟩ :=
      render_renamed entries Loader.none {} hrenamed hparse
    obtain ⟨hrender, hhosted⟩ := hrenders hplaces
    exact ⟨template, template', rfl, hparse', hnodes, hrender, fun budget scope =>
      hhosted _ _ budget scope fun _ => congrArg Named.row hnodes⟩

/-- A handler can see the column of its tag, which shorter names in front of it move. -/
theorem column_of_renamed :
    let column : Handler :=
      { hasBody := false, body := fun e => .done (toString e.tag.span.column, .proceed) }
    let engine : Engine :=
      ⟨Registry.empty.registerAll (Builtin.handlers ++ [("column", column)]), Loader.none, {}⟩
    let source := "<cfoutput></cfoutput><column>"
    let source' := "<OUTPUT></OUTPUT><column>"
    Scanner.Renamed engine.registry.SameTag source.toList source'.toList ∧
      (engine.renderSource source .empty).1.toOption = some "22" ∧
      (engine.renderSource source' .empty).1.toOption = some "18" := by
  intro column engine source source'
  have hwritten : IsWrittenName "cfoutput" := ⟨by decide +kernel, by decide +kernel⟩
  have hbare : IsWrittenName "OUTPUT" := ⟨by decide +kernel, by decide +kernel⟩
  have hsame : engine.registry.SameTag (Text.foldAscii "cfoutput") (Text.foldAscii "OUTPUT") :=
    .of_map (by decide +kernel : _ = some "cfoutput") (by decide +kernel)
  have hcolumn : Scanner.Renamed engine.registry.SameTag "<column>".toList "<column>".toList :=
    @Scanner.Renamed.past _ '<' "column>".toList [] [] (by decide +kernel) .done
  have hclosing : Scanner.Renamed engine.registry.SameTag "</cfoutput><column>".toList
      "</OUTPUT><column>".toList :=
    @Scanner.Renamed.tag _ true "cfoutput" "OUTPUT" [] _ _ hwritten hbare rfl hsame
      (by decide +kernel) hcolumn
  have hrenamed : Scanner.Renamed engine.registry.SameTag "<cfoutput></cfoutput><column>".toList
      "<OUTPUT></OUTPUT><column>".toList :=
    @Scanner.Renamed.tag _ false "cfoutput" "OUTPUT" [] _ _ hwritten hbare rfl hsame
      (by decide +kernel) hclosing
  exact ⟨hrenamed, by decide +kernel, by decide +kernel⟩

end Engine

end TagTemplate
