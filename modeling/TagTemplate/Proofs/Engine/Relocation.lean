import TagTemplate.Proofs.Engine.Hosting
import TagTemplate.Proofs.Render.Relocation

/-!
# The same template elsewhere

A template with other spans in the same lines is rendered to the same report, if no handler sees
more of a span than its line (`Engine.render_alike`). The templates that it includes are the same in
both renders. Other rows that hooks ask for by a name may have other spans as well
(`Engine.hosted_alike`).
-/

namespace TagTemplate

/-- What a name stands for, with other spans. -/
def Named.relocate (f : Span → Span) : Named → Named
  | .row nodes => .row (relocateAll f nodes)
  | .template path => .template path

namespace Engine

variable {engine : Engine}

/-- An include comes to the same when the nodes of its template do. -/
theorem opening_alike {walk walk' : List Node → Walker}
    (h : ∀ nodes, Render.Alike (Setting.pass (walk nodes)) (Setting.pass (walk' nodes)))
    (path : String) : Render.Alike (engine.opening walk path) (engine.opening walk' path) := by
  intro st hst
  by_cases hfull : engine.limits.maxIncludeDepth ≤ st.includeDepth
  · rw [opening_of_full hfull, opening_of_full hfull]
    exact ⟨rfl, hst⟩
  · rw [Nat.not_le] at hfull
    cases hfetch : engine.fetch path with
    | error e =>
      rw [opening_of_fetch_error hfull hfetch, opening_of_fetch_error hfull hfetch]
      exact ⟨rfl, hst⟩
    | ok template =>
      have hincluded : ({ st with interpolating := false, includeDepth := st.includeDepth + 1 } :
          RenderState).journal = none := hst
      obtain ⟨hsame, hafter⟩ := h template.nodes _ hincluded
      rw [opening_of_fetch hfull hfetch, opening_of_fetch hfull hfetch]
      refine ⟨?_, hafter⟩
      rw [renderOpened, hsame]
      rfl

variable (hplaces : ∀ name h, engine.registry.get? name = some h → h.IgnoresPlaces (.down 0))
include hplaces

/-- Other spans in the same lines make no difference, if what hooks ask for by a name comes to the
same. -/
theorem alikeElsewhere_of_embed {embed embed' : String → Render}
    (hembed : ∀ path, Render.Alike (embed path) (embed' path)) :
    Setting.AlikeElsewhere (.down 0) ⟨engine.registry, engine.limits, embed⟩
      ⟨engine.registry, engine.limits, embed'⟩ where
  registry := rfl
  limits := rfl
  embed := hembed
  line _ := rfl
  handlers := hplaces

/-- What is met by a name comes to the same, also where the names stand for other spans. -/
theorem meet_alike {stands stands' : String → Named}
    (hstands : ∀ name, (stands' name).relocate (.down 0) = (stands name).relocate (.down 0))
    (budget : Nat) (name : String) :
    Render.Alike (engine.meet stands budget name) (engine.meet stands' budget name) := by
  induction budget generalizing name with
  | zero => exact fun _ hst => ⟨rfl, hst⟩
  | succ budget ih =>
    have hsetting := alikeElsewhere_of_embed hplaces ih
    have hname := hstands name
    rw [meet, meet]
    cases hrow : stands name with
    | row nodes =>
      rw [hrow] at hname
      cases hrow' : stands' name with
      | row nodes' =>
        rw [hrow'] at hname
        exact Setting.pass_alike hsetting (Named.row.inj hname)
      | template path' =>
        rw [hrow'] at hname
        cases hname
    | template path =>
      rw [hrow] at hname
      cases hrow' : stands' name with
      | row nodes' =>
        rw [hrow'] at hname
        cases hname
      | template path' =>
        rw [hrow'] at hname
        cases hname
        exact opening_alike (fun nodes => Setting.pass_alike hsetting rfl) path

/-- Includes begin no journal. -/
theorem embed_alike (budget : Nat) (path : String) :
    Render.Alike (engine.embed budget path) (engine.embed budget path) := by
  rw [← meet_template]
  exact meet_alike hplaces (fun _ => rfl) budget path

theorem setting_alikeElsewhere : engine.setting.AlikeElsewhere (.down 0) engine.setting :=
  alikeElsewhere_of_embed hplaces (embed_alike hplaces engine.limits.maxIncludeDepth)

/-- Templates that are the same but for spans in the same lines come to the same where hooks can ask
for rows by a name, and these are the same but for such spans. -/
theorem hosted_alike {template template' : Template} {stands stands' : String → Named}
    (hnodes : relocateAll (.down 0) template'.nodes = relocateAll (.down 0) template.nodes)
    (hstands : ∀ name, (stands' name).relocate (.down 0) = (stands name).relocate (.down 0))
    (budget : Nat) (scope : Scope) :
    engine.hosted stands' budget template' (.start scope) =
      engine.hosted stands budget template (.start scope) := by
  have hsetting := alikeElsewhere_of_embed hplaces (meet_alike hplaces hstands budget)
  exact (Setting.pass_alike hsetting hnodes (.start scope) rfl).1

/-- Templates that are the same but for spans in the same lines are rendered to the same report. -/
theorem render_alike {template template' : Template}
    (hnodes : relocateAll (.down 0) template'.nodes = relocateAll (.down 0) template.nodes)
    (scope : Scope) : engine.render template' scope = engine.render template scope := by
  rw [render, render, ← hosted_template, hosted_alike hplaces hnodes (fun _ => rfl)]

end Engine

end TagTemplate
