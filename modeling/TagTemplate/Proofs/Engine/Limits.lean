import TagTemplate.Engine
import TagTemplate.Proofs.Builtin.Limits
import TagTemplate.Proofs.Tree.Limit

/-!
# An engine with wider limits

Two engines with the built-in tags and the same loader, one with narrow limits and one with wide
ones. What the first one parses and renders without an error, the second one parses to the same
tree and renders to the same output, and it leaves the same variables (`renderSource_of_le`). This
includes all that is done in included templates, which both engines load by the same paths.
-/

namespace TagTemplate

/-- Why a source has no output: it is no template, or its render fails. -/
inductive SourceError where
  | parse (error : ParseError)
  | render (error : RenderError)

namespace Engine

/-- Parses a source and renders the template: the output or what went wrong, and the variables
after it. -/
def renderSource (engine : Engine) (source : String) (scope : Scope) :
    Except SourceError String × Scope :=
  match engine.parse source with
  | .error e => (.error (.parse e), scope)
  | .ok template =>
    let report := engine.render template scope
    (report.outcome.mapError .render, report.scope)

/-- The engine with other limits. -/
def withLimits (engine : Engine) (limits : Limits) : Engine := { engine with limits }

variable {engine : Engine} {limits : Limits}

theorem parse_withLimits (h : engine.limits ≤ limits) {source : String} {template : Template}
    (hok : engine.parse source = .ok template) :
    (engine.withLimits limits).parse source = .ok template :=
  Template.parse_of_le h.2.2 hok

theorem fetch_withLimits (h : engine.limits ≤ limits) {path : String} {template : Template}
    (hok : engine.fetch path = .ok template) :
    (engine.withLimits limits).fetch path = .ok template := by
  have hloader : (engine.withLimits limits).loader path = engine.loader path := rfl
  unfold fetch at hok ⊢
  rw [hloader]
  cases hload : engine.loader path with
  | error e =>
    rw [hload] at hok
    cases hok
  | ok source =>
    rw [hload] at hok
    simp only at hok ⊢
    cases hparse : engine.parse source with
    | error e =>
      rw [hparse] at hok
      cases hok
    | ok parsed =>
      rw [hparse] at hok
      rw [parse_withLimits h hparse]
      exact hok

/-- A template in the place of an include carries over when its nodes do. -/
theorem renderOpened_carriesOver {walk walk' : Walker} (h : Walker.CarriesOver walk walk') :
    Render.CarriesOver (renderOpened walk) (renderOpened walk') := by
  intro st hok
  have hsame := h.pass { st with interpolating := false, includeDepth := st.includeDepth + 1 } hok
  rw [renderOpened, renderOpened, hsame]

/-- The handlers of an engine carry over to other limits. -/
def Lenient (engine : Engine) (limits : Limits) : Prop :=
  ∀ name h, engine.registry.get? name = some h → h.CarriesOver engine.limits limits

/-- Includes carry over, however many of them may still be opened. -/
theorem embed_carriesOver (h : engine.limits ≤ limits) (hlenient : engine.Lenient limits)
    {budget budget' : Nat} (hbudget : budget ≤ budget') (path : String) :
    Render.CarriesOver (engine.embed budget path)
      ((engine.withLimits limits).embed budget' path) := by
  -- On the budget of the narrow engine: without one, no include of it succeeds.
  induction budget generalizing budget' path with
  | zero => exact fun st hok => nomatch hok
  | succ budget ih =>
    obtain ⟨budget', rfl⟩ : ∃ n, budget' = n + 1 := ⟨budget' - 1, by omega⟩
    intro st hok
    rw [embed] at hok
    split at hok
    · cases hok
    · next hroom =>
      have hroom' : ¬ limits.maxIncludeDepth ≤ st.includeDepth := by
        have := h.2.1
        omega
      cases hfetch : engine.fetch path with
      | error e =>
        rw [hfetch] at hok
        cases hok
      | ok template =>
        rw [hfetch] at hok
        have hsetting : Setting.CarriesOver ⟨engine.registry, engine.limits, engine.embed budget⟩
            ⟨engine.registry, limits, (engine.withLimits limits).embed budget'⟩ :=
          ⟨h, rfl, hlenient, ih (by omega)⟩
        rw [embed, embed, if_neg hroom, hfetch, fetch_withLimits h hfetch]
        rw [if_neg (show ¬ (engine.withLimits limits).limits.maxIncludeDepth ≤ _ from hroom')]
        exact renderOpened_carriesOver (hsetting.walk template.nodes) st hok

/-- What a template is rendered to under narrow limits carries over to wide ones. -/
theorem run_carriesOver (h : engine.limits ≤ limits) (hlenient : engine.Lenient limits)
    (template : Template) :
    Render.CarriesOver (engine.run template) ((engine.withLimits limits).run template) := by
  have hsetting : engine.setting.CarriesOver (engine.withLimits limits).setting :=
    ⟨h, rfl, hlenient, embed_carriesOver h hlenient h.2.1⟩
  exact (hsetting.walk template.nodes).pass

/-- A template that has an output was rendered without an error. -/
theorem isOk_of_outputOf {rendered : Rendered} (h : (outputOf rendered).isOk = true) :
    rendered.outcome.isOk = true := by
  unfold outputOf at h
  split at h
  · cases h
  · cases h
  · next hflow => rw [hflow]; rfl

/-- An output, and the variables that are left, carry over. -/
theorem render_withLimits (h : engine.limits ≤ limits) (hlenient : engine.Lenient limits)
    {template : Template} {scope : Scope}
    (hok : (engine.render template scope).outcome.isOk = true) :
    (engine.withLimits limits).render template scope = engine.render template scope := by
  have hrun : (engine.run template (.start scope)).1.outcome.isOk = true := isOk_of_outputOf hok
  have hsame := run_carriesOver h hlenient template (.start scope) hrun
  rw [render, render, hsame]

/-- With the built-in tags, what a source is rendered to under some limits, and what it leaves of
the variables, it is rendered to and leaves under all limits that allow at least as much. -/
theorem renderSource_of_le {loader : Loader} {narrow wide : Limits} (h : narrow ≤ wide)
    {source output : String} {scope after : Scope}
    (hok : renderSource ⟨Builtin.registry, loader, narrow⟩ source scope = (.ok output, after)) :
    renderSource ⟨Builtin.registry, loader, wide⟩ source scope = (.ok output, after) := by
  have hlenient : Lenient ⟨Builtin.registry, loader, narrow⟩ wide := Builtin.registry_carriesOver h
  unfold renderSource at hok ⊢
  cases hparse : parse ⟨Builtin.registry, loader, narrow⟩ source with
  | error e =>
    rw [hparse] at hok
    cases hok
  | ok template =>
    rw [hparse] at hok
    have hparse' : parse ⟨Builtin.registry, loader, wide⟩ source = .ok template :=
      parse_withLimits h hparse
    -- only a render that succeeded carries over
    have houtcome :
        (render ⟨Builtin.registry, loader, narrow⟩ template scope).outcome.isOk = true := by
      cases ho : (render ⟨Builtin.registry, loader, narrow⟩ template scope).outcome with
      | error e =>
        simp only [ho] at hok
        cases hok
      | ok text => rfl
    have hrender : render ⟨Builtin.registry, loader, wide⟩ template scope =
        render ⟨Builtin.registry, loader, narrow⟩ template scope :=
      render_withLimits h hlenient houtcome
    rw [hparse']
    simp only at hok ⊢
    rw [hrender]
    exact hok

/-- A loop, an include and nested blocks that use up the narrow limits. -/
theorem renderSource_of_le_exact :
    let loader : Loader := fun path =>
      if path = "inner" then .ok "<cfoutput>#x#</cfoutput>" else .error ⟨path⟩
    let source := "<cfloop list='a,b' item='x'>[<cfinclude template='inner'>]</cfloop>"
    ∃ after,
      renderSource ⟨Builtin.registry, loader, ⟨2, 1, 2⟩⟩ source .empty = (.ok "[a][b]", after) ∧
      renderSource ⟨Builtin.registry, loader, {}⟩ source .empty = (.ok "[a][b]", after) := by
  intro loader source
  have hout : (renderSource ⟨Builtin.registry, loader, ⟨2, 1, 2⟩⟩ source .empty).1.toOption =
      some "[a][b]" := by decide +kernel
  rcases hr : renderSource ⟨Builtin.registry, loader, ⟨2, 1, 2⟩⟩ source .empty with ⟨_ | out, after⟩
  · rw [hr] at hout
    cases hout
  · rw [hr] at hout
    cases hout
    exact ⟨after, rfl, renderSource_of_le ⟨by decide, by decide, by decide⟩ hr⟩

end Engine

end TagTemplate
