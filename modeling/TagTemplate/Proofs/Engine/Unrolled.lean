import TagTemplate.Proofs.Builtin.Errors
import TagTemplate.Proofs.Engine.Hosting

/-!
# Includes within includes

A template can include itself, so includes could go on without end if there were no limit. Here they
are followed to some depth only, and what is further in is met in any way whatever (`unrolled`).
Beyond the limit this changes nothing (`runWith_unrolled`): a render never gets there.

At the limit an include fails before the loader is asked, and this is the only place where the error
of too many includes is raised (`outcome_unrolled`).
-/

namespace TagTemplate

/-- That too many includes are open. -/
def RenderError.isIncludeDepth : RenderError → Bool
  | .includeDepthExceeded _ _ => true
  | _ => false

namespace Engine

variable {engine : Engine}

/-! ## Unrolled includes -/

/-- Meets includes: the outer ones, so many one within the other, are opened, and what is further in
is met by `beyond`. -/
def unrolled (engine : Engine) (beyond : String → Render) : Nat → String → Render
  | 0 => beyond
  | n + 1 => engine.opening
    (Setting.walk ⟨engine.registry, engine.limits, engine.unrolled beyond n⟩)

/-- Renders the nodes of a template, with includes that are met in some way. -/
def runWith (engine : Engine) (embed : String → Render) (template : Template) : Render :=
  Setting.pass (Setting.walk ⟨engine.registry, engine.limits, embed⟩ template.nodes)

/-- Renders a template, with includes that are met in some way. -/
def renderWith (engine : Engine) (embed : String → Render) (template : Template) (scope : Scope) :
    Report :=
  let (rendered, st) := engine.runWith embed template (.start scope)
  ⟨outputOf rendered, st.scope⟩

/-- The includes of an engine are opened as far as the budget goes, and refused further in. -/
theorem embed_eq_unrolled (engine : Engine) (budget : Nat) :
    engine.embed budget = engine.unrolled engine.refuse budget := by
  induction budget with
  | zero => rfl
  | succ budget ih =>
    funext path
    rw [embed_succ, unrolled, ih]

/-- Where as many includes are open as the limit allows, an include is refused whatever the budget
and the loader. -/
theorem embed_of_full {budget : Nat} {path : String} {st : RenderState}
    (hfull : engine.limits.maxIncludeDepth ≤ st.includeDepth) :
    engine.embed budget path st = engine.refuse path st := by
  cases budget with
  | zero => rfl
  | succ budget => exact opening_of_full hfull

/-! ## The limit ends the recursion -/

/-- What is met beyond the limit does not matter. -/
theorem unrolled_embeds (journals : Coupling.Journals engine.limits) (beyond : String → Render)
    {n budget includes : Nat} (hn : engine.limits.maxIncludeDepth < n + includes)
    (hbudget : engine.limits.maxIncludeDepth ≤ budget + includes) :
    (Coupling.within journals).Embeds includes (engine.unrolled beyond n)
      (engine.embed budget) := by
  induction n generalizing budget includes with
  | zero =>
    intro b b' hbooks hincludes path
    have hlimit := hbooks.2.2
    omega
  | succ n ih =>
    intro b b' hbooks hincludes path
    cases budget with
    | zero =>
      intro st st' hat _
      have hcount : st.includeDepth = b.includeDepth := congrArg Books.includeDepth hat.left
      rw [unrolled, opening_of_full (by omega)]
      exact ⟨rfl, hat⟩
    | succ budget =>
      have hdeeper : b.included.includeDepth = includes + 1 := congrArg (· + 1) hincludes
      rw [unrolled, embed_succ]
      exact opening_within hbooks (fun hincluded nodes =>
        Coupling.walk (Coupling.within_passing journals _) (ih (by omega) (by omega)) nodes _ _
          hincluded hdeeper) path

/-- A render follows includes no further than the limit, whether it is watched or not. -/
theorem run_unrolled (journals : Coupling.Journals engine.limits) (beyond : String → Render)
    {n : Nat} (hn : engine.limits.maxIncludeDepth < n) (template : Template) {st st' : RenderState}
    (hst : (Coupling.within journals).At ⟨false, 0, 0⟩ ⟨false, 0, 0⟩ st st') :
    (engine.run template st').1 = (engine.runWith (engine.unrolled beyond n) template st).1 ∧
      (Coupling.within journals).At ⟨false, 0, 0⟩ ⟨false, 0, 0⟩
        (engine.runWith (engine.unrolled beyond n) template st).2 (engine.run template st').2 := by
  have hembeds : (Coupling.within journals).Embeds 0 (engine.unrolled beyond n)
      (engine.embed engine.limits.maxIncludeDepth) :=
    unrolled_embeds journals beyond hn (Nat.le_refl _)
  have hwalk := Coupling.walk (Coupling.within_passing journals engine.registry) hembeds
    template.nodes ⟨false, 0, 0⟩ ⟨false, 0, 0⟩ hst.books rfl
  exact hwalk.pass st st' hst fun h => nomatch h

/-- Followed beyond the limit, includes make for the same render, whatever is met further in. -/
theorem runWith_unrolled (beyond : String → Render) {n : Nat}
    (hn : engine.limits.maxIncludeDepth < n) (template : Template) (scope : Scope) :
    engine.runWith (engine.unrolled beyond n) template (.start scope) =
      engine.run template (.start scope) := by
  have hst : (Coupling.within (Coupling.sameJournals engine.limits)).At ⟨false, 0, 0⟩ ⟨false, 0, 0⟩
      (.start scope) (.start scope) := ⟨Coupling.start_within _, rfl, rfl, rfl, rfl⟩
  obtain ⟨hrendered, hafter⟩ := run_unrolled _ beyond hn template hst
  exact (Prod.ext hrendered (hafter.eq_of rfl hafter.journals)).symm

/-! ## The error of too many includes -/

/-- A template may not be had, but not for too many includes. -/
theorem failsOnly_fetch (path : String) :
    FailsOnly (fun e => e.isIncludeDepth = false) (engine.fetch path) := by
  unfold fetch
  split
  · exact failsOnly_error rfl
  · split
    · exact failsOnly_error rfl
    · exact failsOnly_ok _

/-- A template in the place of an include fails as its walk does with one more include open. -/
theorem renderOpened_failsOnly {kind : RenderError → Prop} {includes : Nat} {walk : Walker}
    (h : walk.FailsOnly kind (includes + 1)) :
    Render.FailsOnly kind includes (renderOpened walk) := by
  intro st hst
  exact h.pass { st with interpolating := false, includeDepth := st.includeDepth + 1 }
    (congrArg (· + 1) hst)

/-- Unrolled includes leave the books as they were if those further in do. -/
theorem unrolled_restores {beyond : String → Render}
    (hrestores : ∀ path, Render.Restores (beyond path)) (n : Nat) (path : String) :
    Render.Restores (engine.unrolled beyond n path) := by
  induction n generalizing path with
  | zero => exact hrestores path
  | succ n ih => exact opening_restores (fun nodes => Setting.walk_restores ih nodes) path

/-- Includes that are opened fail for too many only if those do that are reached with as many open
as the limit allows. -/
theorem unrolled_failsOnly (hr : engine.registry.Raises fun e => e.isIncludeDepth = false)
    {beyond : String → Render} (hrestores : ∀ path, Render.Restores (beyond path))
    (hbeyond : ∀ path, Render.FailsOnly (fun e => e.isIncludeDepth = false)
      engine.limits.maxIncludeDepth (beyond path)) {n includes : Nat}
    (hn : n + includes = engine.limits.maxIncludeDepth) (path : String) :
    Render.FailsOnly (fun e => e.isIncludeDepth = false) includes
      (engine.unrolled beyond n path) := by
  induction n generalizing includes path with
  | zero =>
    rw [Nat.zero_add] at hn
    rw [hn]
    exact hbeyond path
  | succ n ih =>
    have hdeeper : Setting.FailsOnly (fun e => e.isIncludeDepth = false) (includes + 1)
        ⟨engine.registry, engine.limits, engine.unrolled beyond n⟩ :=
      ⟨hr, unrolled_restores hrestores n, ih (by omega), fun _ => rfl, fun _ _ _ => rfl,
        fun _ _ => rfl⟩
    intro st hst
    have hroom : st.includeDepth < engine.limits.maxIncludeDepth := by omega
    rw [unrolled]
    cases hfetch : engine.fetch path with
    | error e =>
      rw [opening_of_fetch_error hroom hfetch]
      exact failsOnly_error (failsOnly_fetch path e hfetch)
    | ok template =>
      rw [opening_of_fetch hroom hfetch]
      exact renderOpened_failsOnly (Setting.walk_failsOnly hdeeper template.nodes) st hst

/-- The output of a render fails as the render does, or because no loop has caught a break. -/
theorem failsOnly_outputOf {kind : RenderError → Prop} {rendered : Rendered}
    (h : FailsOnly kind rendered.outcome)
    (hbreak : rendered.outcome = .ok .breakLoop → kind .breakOutsideLoop) :
    FailsOnly kind (outputOf rendered) := by
  unfold outputOf
  rcases rendered with ⟨text, error | flow⟩
  · exact h.of_error
  · cases flow with
    | proceed => exact failsOnly_ok _
    | breakLoop => exact failsOnly_error (hbreak rfl)
    | abort => exact failsOnly_ok _

/-- If what is met with as many includes open as the limit allows does not fail for too many, no
render does. -/
theorem outcome_unrolled (hr : engine.registry.Raises fun e => e.isIncludeDepth = false)
    {beyond : String → Render} (hrestores : ∀ path, Render.Restores (beyond path))
    (hbeyond : ∀ path, Render.FailsOnly (fun e => e.isIncludeDepth = false)
      engine.limits.maxIncludeDepth (beyond path)) (template : Template) (scope : Scope) :
    FailsOnly (fun e => e.isIncludeDepth = false)
      (engine.renderWith (engine.unrolled beyond engine.limits.maxIncludeDepth) template
        scope).outcome := by
  have hsetting : Setting.FailsOnly (fun e => e.isIncludeDepth = false) 0
      ⟨engine.registry, engine.limits, engine.unrolled beyond engine.limits.maxIncludeDepth⟩ :=
    ⟨hr, unrolled_restores hrestores _, unrolled_failsOnly hr hrestores hbeyond (Nat.add_zero _),
      fun _ => rfl, fun _ _ _ => rfl, fun _ _ => rfl⟩
  have hwalk := Setting.walk_failsOnly hsetting template.nodes
  exact failsOnly_outputOf (hwalk.pass (.start scope) rfl) fun _ => rfl

end Engine

end TagTemplate
