import TagTemplate.Proofs.Render.Induction
import TagTemplate.Proofs.Render.Visits

/-!
# Wider limits

A render under wider limits does what the render under narrower ones did, as far as that one
succeeded. Two things are said to carry over when this holds of them: programs, and all that runs
programs up to the walk over a tree (`walk_carriesOver`).

For programs the relation is a syntactic one. The two make the same requests; they may differ in
what they do with the limits, but only where the first one fails. An error in what was rendered
must be an error of the first program: one that recovers from it could do better under limits that
raise no error.
-/

namespace TagTemplate

/-- Limits that allow at least as much. -/
instance : LE Limits where
  le narrow wide := narrow.loopLimit ≤ wide.loopLimit ∧
    narrow.maxIncludeDepth ≤ wide.maxIncludeDepth ∧ narrow.maxDepth ≤ wide.maxDepth

variable {α β : Type} {narrow wide : Limits}

/-! ## Programs -/

/-- An error in what was rendered is an error of the program. -/
def PassesErrorsOn (next : Rendered → Program α) : Prop :=
  ∀ text e, ∃ error, next ⟨text, .error e⟩ = .fail error

/-- The second program makes under wide limits the requests that the first one makes under narrow
ones, unless the first one fails. -/
inductive Program.CarriesOver (narrow wide : Limits) : Program α → Program α → Prop
  | done (result : α) : CarriesOver narrow wide (.done result) (.done result)
  | fail (error : RenderError) (program : Program α) :
    CarriesOver narrow wide (.fail error) program
  | look {next next' : View → Program α}
    (h : ∀ scope interpolating, CarriesOver narrow wide (next ⟨scope, narrow, interpolating⟩)
      (next' ⟨scope, wide, interpolating⟩)) :
    CarriesOver narrow wide (.look next) (.look next')
  | update (change : Scope → Scope) {next next' : Program α}
    (h : CarriesOver narrow wide next next') :
    CarriesOver narrow wide (.update change next) (.update change next')
  | render (region : Region) {next next' : Rendered → Program α} (herror : PassesErrorsOn next)
    (h : ∀ text flow, CarriesOver narrow wide (next ⟨text, .ok flow⟩) (next' ⟨text, .ok flow⟩)) :
    CarriesOver narrow wide (.render region next) (.render region next')
  | embed (path : String) {next next' : Rendered → Program α} (herror : PassesErrorsOn next)
    (h : ∀ text flow, CarriesOver narrow wide (next ⟨text, .ok flow⟩) (next' ⟨text, .ok flow⟩)) :
    CarriesOver narrow wide (.embed path next) (.embed path next')

theorem PassesErrorsOn.andThen {next : Rendered → Program α} (h : PassesErrorsOn next)
    (f : α → Program β) : PassesErrorsOn fun rendered => (next rendered).andThen f := by
  intro text e
  obtain ⟨error, herror⟩ := h text e
  refine ⟨error, ?_⟩
  show (next _).andThen f = _
  rw [herror]
  rfl

namespace Program.CarriesOver

/-- What carries over step by step carries over in sequence. -/
theorem andThen {p p' : Program α} {f f' : α → Program β} (hp : CarriesOver narrow wide p p')
    (hf : ∀ result, CarriesOver narrow wide (f result) (f' result)) :
    CarriesOver narrow wide (p.andThen f) (p'.andThen f') := by
  induction hp with
  | done result => exact hf result
  | fail error => exact .fail error _
  | look _ ih => exact .look ih
  | update change _ ih => exact .update change ih
  | render region herror _ ih => exact .render region (herror.andThen f) ih
  | embed path herror _ ih => exact .embed path (herror.andThen f) ih

/-- A result that stands, or the error in its place. -/
theorem ofExcept {result result' : Except RenderError α}
    (h : ∀ a, result = .ok a → result' = .ok a) :
    CarriesOver narrow wide (.ofExcept result) (.ofExcept result') := by
  cases result with
  | error e => exact .fail e _
  | ok a =>
    rw [h a rfl]
    exact .done a

theorem scope : CarriesOver narrow wide Program.scope Program.scope :=
  .look fun scope _ => .done scope

theorem assign (name : String) (value : Value) :
    CarriesOver narrow wide (Program.assign name value) (Program.assign name value) :=
  .update _ (.done ())

theorem passesErrorsOn_passOn : PassesErrorsOn Program.passOn := fun _ e => ⟨e, rfl⟩

theorem rendered (region : Region) :
    CarriesOver narrow wide (Program.rendered region) (Program.rendered region) :=
  .render region passesErrorsOn_passOn fun text flow => .done (text, flow)

theorem embedded (path : String) :
    CarriesOver narrow wide (Program.embedded path) (Program.embedded path) :=
  .embed path passesErrorsOn_passOn fun text flow => .done (text, flow)

end Program.CarriesOver

/-! ## Running programs -/

/-- Where the first render succeeds, the second one comes to the same. -/
def Render.CarriesOver (render render' : Render) : Prop :=
  ∀ st, (render st).1.outcome.isOk = true → render' st = render st

/-- Surroundings with wider limits, in which all that is rendered carries over. -/
structure Surroundings.CarriesOver (s s' : Surroundings) : Prop where
  limits : s.limits ≤ s'.limits
  region : ∀ region, Render.CarriesOver (s.region region) (s'.region region)
  embed : ∀ path, Render.CarriesOver (s.embed path) (s'.embed path)

theorem Program.run_render (s : Surroundings) (region : Region) (next : Rendered → Program α)
    (st : RenderState) : (Program.render region next).run s st =
      (next (s.region region st).1).run s (s.region region st).2 := rfl

theorem Program.run_embed (s : Surroundings) (path : String) (next : Rendered → Program α)
    (st : RenderState) : (Program.embed path next).run s st =
      (next (s.embed path st).1).run s (s.embed path st).2 := rfl

/-- A program that succeeds has rendered without an error, and so the render carries over. -/
theorem Render.CarriesOver.of_passesErrorsOn {render render' : Render}
    (h : Render.CarriesOver render render') {s : Surroundings} {next : Rendered → Program α}
    (herror : PassesErrorsOn next) (st : RenderState)
    (hok : ((next (render st).1).run s (render st).2).1.isOk = true) :
    ∃ text flow, (render st).1 = ⟨text, .ok flow⟩ ∧ render' st = render st := by
  rcases hr : (render st).1 with ⟨text, e | flow⟩
  · obtain ⟨error, hfail⟩ := herror text e
    rw [hr, hfail] at hok
    cases hok
  · exact ⟨text, flow, rfl, h st (by rw [hr]; rfl)⟩

/-- Where the first program succeeds, the second one comes to the same. -/
theorem Program.CarriesOver.run {s s' : Surroundings} (hs : s.CarriesOver s') {p p' : Program α}
    (h : CarriesOver s.limits s'.limits p p') (st : RenderState)
    (hok : (p.run s st).1.isOk = true) : p'.run s' st = p.run s st := by
  induction h generalizing st with
  | done result => rfl
  | fail error => cases hok
  | look _ ih => exact ih st.scope st.interpolating st hok
  | update change _ ih => exact ih _ hok
  | render region herror _ ih =>
    rw [run_render] at hok
    obtain ⟨text, flow, hr, hsame⟩ := (hs.region region).of_passesErrorsOn herror st hok
    rw [run_render, run_render, hsame, hr]
    exact ih text flow _ (by rw [← hr]; exact hok)
  | embed path herror _ ih =>
    rw [run_embed] at hok
    obtain ⟨text, flow, hr, hsame⟩ := (hs.embed path).of_passesErrorsOn herror st hok
    rw [run_embed, run_embed, hsame, hr]
    exact ih text flow _ (by rw [← hr]; exact hok)

/-- A hook that succeeds does so in wider surroundings, with the same entries in the journal. -/
theorem Program.CarriesOver.runHook {s s' : Surroundings} (hs : s.CarriesOver s')
    {p p' : Program α} (h : CarriesOver s.limits s'.limits p p') {hook : Hook} {tag : Tag}
    {result : Except RenderError α → HookResult} {st st₁ : RenderState}
    {answer : Except RenderError α} (hrun : p.runHook s hook tag result st = (answer, st₁))
    (hok : answer.isOk = true) : p'.runHook s' hook tag result st = (answer, st₁) := by
  have hanswer : answer = (p.runHook s hook tag result st).1 := by rw [hrun]
  rw [hanswer] at hok
  have hsame := h.run hs (st.note (.hookBegins hook tag st.depth st.includeDepth)) hok
  rw [← hrun, Program.runHook, Program.runHook, hsame]

/-! ## Handlers -/

/-- All that a handler does under narrow limits it does under wide ones. -/
structure Handler.CarriesOver (narrow wide : Limits) (h : Handler) : Prop where
  guard : ∀ e, (h.guard e).CarriesOver narrow wide (h.guard e)
  enter : ∀ e, (h.enter e).CarriesOver narrow wide (h.enter e)
  body : ∀ e, (h.body e).CarriesOver narrow wide (h.body e)
  exit : ∀ e text, (h.exit e text).CarriesOver narrow wide (h.exit e text)

namespace Handler.CarriesOver

variable {s s' : Surroundings} {h : Handler}

/-- Hooks that succeed carry over. -/
theorem sameRun (hh : h.CarriesOver s.limits s'.limits) (hs : s.CarriesOver s') (e : Element) :
    h.SameRun (fun _ => False) (fun st st' => st' = st) e e s s' where
  guard := by
    rintro st _ answer st₁ rfl hrun hfails
    exact ⟨st₁, (hh.guard e).runHook hs hrun (failsOnly_false_iff.mp hfails), rfl⟩
  enter := by
    rintro st _ answer st₁ rfl hrun hfails
    exact ⟨st₁, (hh.enter e).runHook hs hrun (failsOnly_false_iff.mp hfails), rfl⟩
  body := by
    rintro st _ answer st₁ rfl hrun hfails
    exact ⟨st₁, (hh.body e).runHook hs hrun (failsOnly_false_iff.mp hfails), rfl⟩
  exit := by
    rintro text st _ answer st₁ rfl hrun hfails
    exact ⟨st₁, (hh.exit e text).runHook hs hrun (failsOnly_false_iff.mp hfails), rfl⟩

/-- So an activation that succeeds carries over. -/
theorem activate (hh : h.CarriesOver s.limits s'.limits) (hs : s.CarriesOver s') (e : Element)
    (st : RenderState) (hok : (h.activate e s st).outcome.isOk = true) :
    h.activate e s' st = h.activate e s st := by
  have hboth := (hh.sameRun hs e).activate rfl (failsOnly_false_iff.mpr hok)
  exact hboth.eq hboth.state

/-- Where the narrow limit allows one more block, the wide one does. -/
theorem activateWithin (hh : h.CarriesOver s.limits s'.limits) (hs : s.CarriesOver s')
    (e : Element) (st : RenderState) (hok : (h.activateWithin e s st).outcome.isOk = true) :
    h.activateWithin e s' st = h.activateWithin e s st := by
  have hfits : e.Fits s.limits st := Classical.byContradiction fun hfull => by
    rw [activateWithin_of_full hfull] at hok
    cases hok
  have hfits' : e.Fits s'.limits st := fun hblock =>
    Nat.lt_of_lt_of_le (hfits hblock) hs.limits.2.2
  rw [activateWithin_of_fits hfits] at hok
  rw [activateWithin_of_fits hfits, activateWithin_of_fits hfits', hh.activate hs e _ hok]

end Handler.CarriesOver

/-! ## Walking a tree -/

/-- Where the first walk succeeds, the second one comes to the same. -/
def Walker.CarriesOver (walk walk' : Walker) : Prop :=
  ∀ chain out st, (walk chain out st).outcome.isOk = true →
    walk' chain out st = walk chain out st

/-- The step does not end in an error. -/
def Step.isOk : Step → Bool
  | .goesOn _ _ _ => true
  | .ends walk => walk.outcome.isOk

theorem Step.failsOnly_of_isOk {step : Step} (hok : step.isOk = true) :
    step.FailsOnly fun _ => False := by
  cases step with
  | goesOn chain out st => trivial
  | ends walk => exact failsOnly_false_iff.mpr hok

/-- A setting with wider limits, and the same handlers, all of which carry over. -/
structure Setting.CarriesOver (s s' : Setting) : Prop where
  limits : s.limits ≤ s'.limits
  registry : s'.registry = s.registry
  handlers : ∀ name h, s.registry.get? name = some h → h.CarriesOver s.limits s'.limits
  embed : ∀ path, Render.CarriesOver (s.embed path) (s'.embed path)

theorem Walker.CarriesOver.pass {walk walk' : Walker} (h : Walker.CarriesOver walk walk') :
    Render.CarriesOver (Setting.pass walk) (Setting.pass walk') := by
  intro st hok
  have hsame := h none "" (st.note .passBegins) hok
  rw [Setting.pass, Setting.pass, hsame]

namespace Setting.CarriesOver

variable {s s' : Setting}

/-- The visit of a tag carries over when its regions do. -/
theorem visit (hs : s.CarriesOver s') {region region' : Region → Render}
    (hregion : ∀ r, Render.CarriesOver (region r) (region' r)) (e : Element) (chain : Chain)
    (out : String) (st : RenderState) (hok : (s.visit e region chain out st).isOk = true) :
    s'.visit e region' chain out st = s.visit e region chain out st := by
  have hsurroundings : Surroundings.CarriesOver ⟨s.limits, region, s.embed⟩
      ⟨s'.limits, region', s'.embed⟩ := ⟨hs.limits, hregion, hs.embed⟩
  have hregistry : s'.registry.get? e.tag.name = s.registry.get? e.tag.name := by rw [hs.registry]
  have hactivation : ∀ h, s.registry.get? e.tag.name = some h →
      TagTemplate.FailsOnly (fun _ => False)
        (h.activateWithin e ⟨s.limits, region, s.embed⟩ st).outcome →
      Activation.Related (fun st st' => st' = st)
        (h.activateWithin e ⟨s.limits, region, s.embed⟩ st)
        (h.activateWithin e ⟨s'.limits, region', s'.embed⟩ st) := by
    -- an activation that succeeds is the same in both settings
    intro h hname hsucceeds
    rw [(hs.handlers _ h hname).activateWithin hsurroundings e st
      (failsOnly_false_iff.mp hsucceeds)]
    exact ⟨rfl, rfl, rfl⟩
  exact (visit_related hregistry rfl rfl hactivation rfl chain out (Step.failsOnly_of_isOk hok)).eq

/-- The walk over some siblings carries over, step by step. -/
theorem walk (hs : s.CarriesOver s') (nodes : List Node) :
    Walker.CarriesOver (s.walk nodes) (s'.walk nodes) := by
  induction nodes using siblings_induction with
  | nil => exact fun _ _ _ _ => rfl
  | text text rest ih => exact fun _ _ st hok => ih _ _ st hok
  | interpolation expression span rest ih => exact fun _ _ st hok => ih _ _ st hok
  | tag e rest hrows ih =>
    intro chain out st hok
    have hvisit := hs.visit (fun region => (hrows region).pass) e chain out st
    rw [walk_tag] at hok
    rw [walk_tag, walk_tag]
    cases hstep : s.visit e (fun region => pass (s.walk (e.row region))) chain out st with
    | goesOn chain' out' st' =>
      rw [hstep] at hok
      rw [hstep] at hvisit
      rw [hvisit rfl]
      exact ih chain' out' st' hok
    | ends w =>
      rw [hstep] at hok
      rw [hstep] at hvisit
      rw [hvisit hok]
      rfl

end Setting.CarriesOver

end TagTemplate
