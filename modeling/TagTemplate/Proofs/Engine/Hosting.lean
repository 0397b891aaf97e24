import TagTemplate.Proofs.Engine.Opening
import TagTemplate.Proofs.Render.Watching

/-!
# Hosts

A hook has the children of its tag rendered, or a template at a path. A host may give its hooks more
to choose from: any row of nodes at all, the tag itself among them, which may have the same row
rendered again. Here a hook asks for such a row by a name (`hosting`), as it asks for a template by
its path, and it need not mind what comes of it. The renderer is the case in which a name is the
path of a template and nothing else (`hosting_template`).

Whether it is watched makes no difference to what a host renders (`hosted_watched`), and so none to
a render (`run_watched`).
-/

namespace TagTemplate

/-- What a hook can ask for by a name. -/
inductive Named where
  | row (nodes : List Node)
  | template (path : String)

namespace Engine

variable {engine : Engine} {stands : String → Named} {budget : Nat}

/-- Fails because too many includes are open. -/
def refuse (engine : Engine) (path : String) : Render := fun st =>
  (⟨"", .error (.includeDepthExceeded path engine.limits.maxIncludeDepth)⟩, st)

/-- Renders what a name stands for. Hooks in it can do the same, so many within each other as there
is budget for, and further in they are refused. What comes to an end at all is met in full from some
budget on. -/
def meet (engine : Engine) (stands : String → Named) : (budget : Nat) → String → Render
  | 0, name => engine.refuse name
  | budget + 1, name =>
    let walk := Setting.walk ⟨engine.registry, engine.limits, engine.meet stands budget⟩
    match stands name with
    | .row nodes => Setting.pass (walk nodes)
    | .template path => engine.opening walk path

/-- The setting in which hooks can ask for what names stand for. -/
def hosting (engine : Engine) (stands : String → Named) (budget : Nat) : Setting :=
  ⟨engine.registry, engine.limits, engine.meet stands budget⟩

/-- Renders the nodes of a template where hooks can ask for what names stand for. -/
def hosted (engine : Engine) (stands : String → Named) (budget : Nat) (template : Template) :
    Render :=
  Setting.pass ((engine.hosting stands budget).walk template.nodes)

/-- What happens then, the latest event first. -/
def hostJournal (engine : Engine) (stands : String → Named) (budget : Nat) (template : Template)
    (scope : Scope) : List Event :=
  (engine.hosted stands budget template (.watched scope)).2.journal.getD []

/-! ## Names that are paths -/

/-- Names that are paths of templates are met as includes. -/
theorem meet_template (engine : Engine) (budget : Nat) :
    engine.meet .template budget = engine.embed budget := by
  induction budget with
  | zero => rfl
  | succ budget ih =>
    funext name
    rw [embed_succ, ← ih]
    rfl

theorem hosting_template (engine : Engine) :
    engine.hosting .template engine.limits.maxIncludeDepth = engine.setting := by
  rw [hosting, meet_template, setting]

/-- A host whose names are paths renders as the engine does. -/
theorem hosted_template (engine : Engine) :
    engine.hosted .template engine.limits.maxIncludeDepth = engine.run := by
  funext template
  rw [hosted, hosting_template, run]

theorem hostJournal_template (engine : Engine) :
    engine.hostJournal .template engine.limits.maxIncludeDepth = engine.journal := by
  funext template scope
  rw [hostJournal, hosted_template, journal]

/-! ## Two runs within the limits -/

/-- An include comes to the same in two runs within the limits if the walks over its template do. -/
theorem opening_within {journals : Coupling.Journals engine.limits} {b b' : Books}
    {walk walk' : List Node → Walker} (hbooks : (Coupling.within journals).books b b')
    (hwalk : (Coupling.within journals).books b.included b'.included → ∀ nodes,
      (Coupling.within journals).Walkers b.included b'.included (walk nodes) (walk' nodes))
    (path : String) :
    (Coupling.within journals).Renders b b' (engine.opening walk path)
      (engine.opening walk' path) := by
  refine Coupling.opening hbooks (fun hfull => .inr ?_) (fun hroom => ?_) path
  · rw [hbooks.1]
    exact hfull
  · have hincluded : (Coupling.within journals).books b.included b'.included :=
      ⟨by rw [hbooks.1], hbooks.2.1, hroom⟩
    exact ⟨by rw [hbooks.1]; exact hroom, hincluded, hwalk hincluded⟩

/-- What is met by a name comes to the same. -/
theorem meet_within (journals : Coupling.Journals engine.limits) (stands : String → Named)
    (budget includes : Nat) :
    (Coupling.within journals).Embeds includes (engine.meet stands budget)
      (engine.meet stands budget) := by
  induction budget generalizing includes with
  | zero => exact fun _ _ _ _ _ _ _ hat _ => ⟨rfl, hat⟩
  | succ budget ih =>
    have hpassing := Coupling.within_passing journals engine.registry
    intro b b' hbooks hincludes name
    rw [meet]
    cases stands name with
    | row nodes => exact (Coupling.walk hpassing (ih includes) nodes b b' hbooks hincludes).pass
    | template path =>
      have hdeeper : b.included.includeDepth = includes + 1 := congrArg (· + 1) hincludes
      exact opening_within hbooks (fun hincluded nodes =>
        Coupling.walk hpassing (ih (includes + 1)) nodes _ _ hincluded hdeeper) path

/-! ## Watched runs -/

/-- A watched run does the same as one that is not watched, and keeps its journal. -/
theorem hosted_watched_at (stands : String → Named) (budget : Nat) (template : Template)
    (scope : Scope) :
    (engine.hosted stands budget template (.watched scope)).1 =
        (engine.hosted stands budget template (.start scope)).1 ∧
      (Coupling.within (Coupling.oneWatched engine.limits)).At ⟨false, 0, 0⟩ ⟨false, 0, 0⟩
        (engine.hosted stands budget template (.start scope)).2
        (engine.hosted stands budget template (.watched scope)).2 := by
  have hst : (Coupling.within (Coupling.oneWatched engine.limits)).At ⟨false, 0, 0⟩ ⟨false, 0, 0⟩
      (.start scope) (.watched scope) :=
    ⟨Coupling.start_within _, rfl, rfl, rfl, rfl, [], rfl, List.forall_mem_nil _⟩
  have hwalk := Coupling.walk (Coupling.within_passing (Coupling.oneWatched _) engine.registry)
    (meet_within _ stands budget 0) template.nodes ⟨false, 0, 0⟩ ⟨false, 0, 0⟩ hst.books rfl
  exact hwalk.pass _ _ hst fun h => nomatch h

/-- The journal of a watched run is all of what happens. -/
theorem journal_hosted_watched (stands : String → Named) (budget : Nat) (template : Template)
    (scope : Scope) : (engine.hosted stands budget template (.watched scope)).2.journal =
      some (engine.hostJournal stands budget template scope) := by
  obtain ⟨-, events, hjournal, -⟩ :=
    (@hosted_watched_at engine stands budget template scope).2.journals
  rw [hostJournal, hjournal]
  rfl

/-- It comes to the same, and all hooks in its journal begin within the limits. -/
theorem hosted_watched (stands : String → Named) (budget : Nat) (template : Template)
    (scope : Scope) :
    (engine.hosted stands budget template (.watched scope)).1 =
        (engine.hosted stands budget template (.start scope)).1 ∧
      (engine.hosted stands budget template (.watched scope)).2.scope =
        (engine.hosted stands budget template (.start scope)).2.scope ∧
      ∀ event ∈ engine.hostJournal stands budget template scope, event.Within engine.limits := by
  obtain ⟨hrendered, hafter⟩ := @hosted_watched_at engine stands budget template scope
  obtain ⟨-, events, hjournal, hevents⟩ := hafter.journals
  refine ⟨hrendered, hafter.scope, ?_⟩
  rw [hostJournal, hjournal]
  exact hevents

/-- So does a watched render. -/
theorem run_watched (template : Template) (scope : Scope) :
    (engine.run template (.watched scope)).1 = (engine.run template (.start scope)).1 ∧
      (engine.run template (.watched scope)).2.scope =
        (engine.run template (.start scope)).2.scope ∧
      ∀ event ∈ engine.journal template scope, event.Within engine.limits := by
  rw [← hosted_template, ← hostJournal_template]
  exact hosted_watched ..

theorem journal_run_watched (template : Template) (scope : Scope) :
    (engine.run template (.watched scope)).2.journal = some (engine.journal template scope) := by
  rw [← hosted_template, ← hostJournal_template]
  exact journal_hosted_watched ..

end Engine

end TagTemplate
