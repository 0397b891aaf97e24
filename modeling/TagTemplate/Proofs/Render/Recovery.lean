import TagTemplate.Proofs.Render.Failures
import TagTemplate.Proofs.Render.Induction
import TagTemplate.Proofs.Render.Transparent

/-!
# Failures where handlers may recover

A handler need not pass on an error in what it had rendered; it can go on, or fail with an error of
its own. All the same, if it makes up only errors of some kind as long as it is not handed others,
and if includes fail only with such errors, then so does a walk in which every tag has a handler
(`walk_failsWithin`). A walk by itself adds that a branch is misplaced or that a block nests too
deep.
-/

namespace TagTemplate

variable {α : Type} {kind : RenderError → Prop}

/-! ## Programs -/

/-- The program fails only with errors of a kind, as long as what it has rendered does. -/
def Program.FailsWithin (kind : RenderError → Prop) : Program α → Prop
  | .done _ => True
  | .fail e => kind e
  | .look next => ∀ view, (next view).FailsWithin kind
  | .update _ next => next.FailsWithin kind
  | .render _ next => ∀ rendered, FailsOnly kind rendered.outcome → (next rendered).FailsWithin kind
  | .embed _ next => ∀ rendered, FailsOnly kind rendered.outcome → (next rendered).FailsWithin kind

/-- All hooks fail only with errors of a kind, as long as what they have rendered does. -/
structure Handler.FailsWithin (kind : RenderError → Prop) (h : Handler) : Prop where
  guard : ∀ e, (h.guard e).FailsWithin kind
  enter : ∀ e, (h.enter e).FailsWithin kind
  body : ∀ e, (h.body e).FailsWithin kind
  exit : ∀ e text, (h.exit e text).FailsWithin kind

/-- All handlers do. -/
def Registry.FailsWithin (kind : RenderError → Prop) (r : Registry) : Prop :=
  ∀ name h, r.get? name = some h → h.FailsWithin kind

/-- A program that passes errors on is one of these. -/
theorem Program.Raises.failsWithin {p : Program α} (hp : p.Raises kind) : p.FailsWithin kind := by
  -- an error that is passed on is one that was handed over, so it is of the kind
  have hpassed : ∀ {next : Rendered → Program α}, (∀ text e, next ⟨text, .error e⟩ = .fail e) →
      (∀ text flow, (next ⟨text, .ok flow⟩).FailsWithin kind) → ∀ rendered,
      FailsOnly kind rendered.outcome → (next rendered).FailsWithin kind := by
    rintro next herror hok ⟨text, e | flow⟩ hrendered
    · rw [herror]
      exact hrendered e rfl
    · exact hok text flow
  induction p with
  | done result => exact trivial
  | fail error => exact hp
  | look next ih => exact fun view => ih view (hp view)
  | update change next ih => exact ih hp
  | render region next ih => exact hpassed hp.1 fun text flow => ih _ (hp.2 text flow)
  | embed path next ih => exact hpassed hp.1 fun text flow => ih _ (hp.2 text flow)

theorem Registry.Raises.failsWithin {r : Registry} (hr : r.Raises kind) : r.FailsWithin kind := by
  intro name h hget
  have hh := hr name h hget
  exact
    { guard := fun e => (hh.guard e).failsWithin
      enter := fun e => (hh.enter e).failsWithin
      body := fun e => (hh.body e).failsWithin
      exit := fun e text => (hh.exit e text).failsWithin }

/-! ## Running hooks -/

/-- The render fails only with errors of a kind. -/
def Render.FailsWithin (kind : RenderError → Prop) (render : Render) : Prop :=
  ∀ st, TagTemplate.FailsOnly kind (render st).1.outcome

/-- All that is rendered in some surroundings fails only with errors of a kind. -/
structure Surroundings.FailsWithin (kind : RenderError → Prop) (s : Surroundings) : Prop where
  region : ∀ region, Render.FailsWithin kind (s.region region)
  embed : ∀ path, Render.FailsWithin kind (s.embed path)

variable {s : Surroundings}

/-- The error of a run is one that the program made up after it was handed only errors of the kind.
-/
theorem Program.FailsWithin.run (hs : s.FailsWithin kind) {p : Program α}
    (hp : p.FailsWithin kind) (st : RenderState) : FailsOnly kind (p.run s st).1 := by
  induction p generalizing st with
  | done result => exact failsOnly_ok result
  | fail error => exact failsOnly_error hp
  | look next ih => exact ih _ (hp _) st
  | update change next ih => exact ih hp { st with scope := change st.scope }
  | render region next ih => exact ih _ (hp _ (hs.region region st)) _
  | embed path next ih => exact ih _ (hp _ (hs.embed path st)) _

theorem Program.FailsWithin.of_runHook (hs : s.FailsWithin kind) {p : Program α}
    (hp : p.FailsWithin kind) {hook : Hook} {tag : Tag}
    {result : Except RenderError α → HookResult} {st st₁ : RenderState}
    {answer : Except RenderError α} (hrun : p.runHook s hook tag result st = (answer, st₁)) :
    FailsOnly kind answer := by
  have hanswer : answer = (p.runHook s hook tag result st).1 := by rw [hrun]
  rw [hanswer]
  exact hp.run hs _

namespace Handler.FailsWithin

variable {h : Handler}

theorem failsFrom (hh : h.FailsWithin kind) (hs : s.FailsWithin kind) (e : Element) :
    h.FailsFrom kind (fun _ => True) e s where
  guard _ hrun := (hh.guard e).of_runHook hs hrun
  enter _ hrun := (hh.enter e).of_runHook hs hrun
  body _ hrun := (hh.body e).of_runHook hs hrun
  exit _ hrun := (hh.exit e _).of_runHook hs hrun

/-- An activation fails as one of its hooks does, or it is a block that nests too deep. -/
theorem activateWithin (hh : h.FailsWithin kind) (hs : s.FailsWithin kind)
    (hdeep : ∀ limit line, kind (.tooDeep limit line)) (e : Element) (st : RenderState) :
    FailsOnly kind (h.activateWithin e s st).outcome := by
  refine activateWithin_cases (fun _ => ?_) fun _ => failsOnly_error (hdeep _ _)
  exact (keeps_true h e s).failsOnly_activate (hh.failsFrom hs e) trivial

end Handler.FailsWithin

/-! ## Walking a tree -/

/-- The walk fails only with errors of a kind. -/
def Walker.FailsWithin (kind : RenderError → Prop) (walk : Walker) : Prop :=
  ∀ chain out st, TagTemplate.FailsOnly kind (walk chain out st).outcome

theorem Walker.FailsWithin.pass {walk : Walker} (h : walk.FailsWithin kind) :
    Render.FailsWithin kind (Setting.pass walk) :=
  fun st => h none "" (st.note .passBegins)

/-- A setting in which handlers and includes fail only with errors of a kind, that of the errors of
the walk itself among them. -/
structure Setting.FailsWithin (kind : RenderError → Prop) (s : Setting) : Prop where
  registry : s.registry.FailsWithin kind
  embed : ∀ path, Render.FailsWithin kind (s.embed path)
  misplaced : ∀ tag allowed line, kind (.misplaced tag allowed line)
  tooDeep : ∀ limit line, kind (.tooDeep limit line)

namespace Setting

variable {s : Setting}

/-- A tag that has a handler fails at most as its activation does. -/
theorem visit_failsWithin (hs : s.FailsWithin kind) {e : Element}
    (htag : s.registry.Knows e.body.isSome e.tag) {region : Region → Render}
    (hregion : ∀ r, Render.FailsWithin kind (region r)) (chain : Chain) (out : String)
    (st : RenderState) : (s.visit e region chain out st).FailsOnly kind := by
  have hsurroundings : Surroundings.FailsWithin kind ⟨s.limits, region, s.embed⟩ :=
    ⟨hregion, hs.embed⟩
  refine failsOnly_visit (fun hname => ?_) (hs.misplaced _ _ _) fun h hname =>
    (hs.registry _ h hname).activateWithin hsurroundings hs.tooDeep e st
  obtain ⟨h, hget⟩ := htag
  rw [hname] at hget
  cases hget

/-- A walk over tags that have handlers fails with an error of one of these, of an include, or of
its own, but not for a tag without a handler. -/
theorem walk_failsWithin (hs : s.FailsWithin kind) (nodes : List Node)
    (htags : AllTagsOf s.registry.Knows nodes) : Walker.FailsWithin kind (s.walk nodes) := by
  induction nodes using siblings_induction with
  | nil => exact fun _ _ _ => failsOnly_ok _
  | text text rest ih => exact fun _ _ st => ih htags.2 _ _ st
  | interpolation expression span rest ih => exact fun _ _ st => ih htags.2 _ _ st
  | tag e rest hrows ih =>
    intro chain out st
    obtain ⟨htag, hchildren⟩ := Element.allTags_node.mp htags.1
    have hvisit := visit_failsWithin hs htag (fun region =>
      (hrows region (hchildren.row region)).pass) chain out st
    rw [walk_tag]
    cases hstep : s.visit e (fun region => pass (s.walk (e.row region))) chain out st with
    | goesOn after out' st₁ => exact ih htags.2 after out' st₁
    | ends w =>
      rw [hstep] at hvisit
      exact hvisit

end Setting

end TagTemplate
