import TagTemplate.Proofs.Render.Induction
import TagTemplate.Proofs.Render.Journal
import TagTemplate.Proofs.Render.Yields
import TagTemplate.Proofs.Tree.Aborts

/-!
# Aborts on record

No handler but that of aborts aborts on its own: it aborts when something that it has rendered does
(`Handler.IsInnocent`). So a watched render that ends in an abort has called the hooks of an abort,
and its journal shows it. As for other properties of the journal, this goes from programs over hooks,
activations and visits to the walk over a tree (`walk_ownsUp`).
-/

namespace TagTemplate

variable {α : Type} {st : RenderState}

/-- Whether a hook of an abort begins. -/
def Event.ofAbort : Event → Bool
  | .hookBegins _ tag _ _ => tag.name == abortName
  | _ => false

/-- The journal, if there is one, has a hook of an abort. -/
def RenderState.ShowsAbort (st : RenderState) : Prop :=
  ∀ events, st.journal = some events → ∃ event ∈ events, event.ofAbort

theorem RenderState.ShowsAbort.note (h : st.ShowsAbort) (event : Event) :
    (st.note event).ShowsAbort := by
  intro events hevents
  rw [st.journal_note] at hevents
  obtain ⟨before, hbefore, rfl⟩ := Option.map_eq_some_iff.mp hevents
  obtain ⟨culprit, hmem, habort⟩ := h before hbefore
  exact ⟨culprit, List.mem_cons_of_mem _ hmem, habort⟩

theorem RenderState.ShowsAbort.outside (h : st.ShowsAbort) (e : Element) :
    (st.outside e).ShowsAbort := by
  rw [ShowsAbort, journal_outside]
  exact h

theorem RenderState.showsAbort_note {event : Event} (h : event.ofAbort) :
    (st.note event).ShowsAbort := by
  intro events hevents
  rw [st.journal_note] at hevents
  obtain ⟨before, -, rfl⟩ := Option.map_eq_some_iff.mp hevents
  exact ⟨event, List.mem_cons_self .., h⟩

/-- What is rendered leaves in the journal what is in it, and does not abort without a hook of an
abort on record. -/
structure Render.OwnsUp (render : Render) : Prop where
  keeps : ∀ {st : RenderState}, st.ShowsAbort → (render st).2.ShowsAbort
  shows : ∀ {st : RenderState}, (render st).1.outcome = .ok .abort → (render st).2.ShowsAbort

/-- So does all that is rendered in some surroundings. -/
structure Surroundings.OwnsUp (s : Surroundings) : Prop where
  region : ∀ region, Render.OwnsUp (s.region region)
  embed : ∀ path, Render.OwnsUp (s.embed path)

/-- What is rendered does not abort. -/
def Rendered.IsCalm (rendered : Rendered) : Prop := rendered.outcome ≠ .ok .abort

/-- The handler aborts only when something does that it has rendered in its body. -/
def Handler.IsInnocent (h : Handler) : Prop :=
  ∀ e, (h.body e).Yields Rendered.IsCalm (·.2 ≠ .abort)

variable {s : Surroundings}

namespace Program

theorem run_keeps (hs : s.OwnsUp) (p : Program α) (h : st.ShowsAbort) :
    (p.run s st).2.ShowsAbort := by
  induction p generalizing st with
  | done result => exact h
  | fail error => exact h
  | look next ih => exact ih _ h
  | update change next ih => exact ih h
  | render region next ih => exact ih _ ((hs.region region).keeps h)
  | embed path next ih => exact ih _ ((hs.embed path).keeps h)

/-- What a program comes to when nothing aborts that it has rendered, it comes to in every run, or an
abort is on record. -/
theorem Yields.run_shows (hs : s.OwnsUp) {good : α → Prop} {p : Program α}
    (hp : p.Yields Rendered.IsCalm good) {a : α} (hrun : (p.run s st).1 = .ok a) :
    good a ∨ (p.run s st).2.ShowsAbort := by
  induction p generalizing st with
  | done result =>
    cases hrun
    exact .inl hp
  | fail error => cases hrun
  | look next ih => exact ih _ (hp _) hrun
  | update change next ih => exact ih hp hrun
  | render region next ih =>
    by_cases hcalm : (s.region region st).1.outcome = .ok .abort
    · exact .inr ((next _).run_keeps hs ((hs.region region).shows hcalm))
    · exact ih _ (hp _ hcalm) hrun
  | embed path next ih =>
    by_cases hcalm : (s.embed path st).1.outcome = .ok .abort
    · exact .inr ((next _).run_keeps hs ((hs.embed path).shows hcalm))
    · exact ih _ (hp _ hcalm) hrun

variable {p : Program α} {hook : Hook} {tag : Tag} {result : Except RenderError α → HookResult}
  {st₁ : RenderState} {answer : Except RenderError α}

theorem keeps_of_runHook (hs : s.OwnsUp) (hrun : p.runHook s hook tag result st = (answer, st₁))
    (h : st.ShowsAbort) : st₁.ShowsAbort := by
  rw [show st₁ = (p.runHook s hook tag result st).2 by rw [hrun]]
  exact (p.run_keeps hs (h.note _)).note _

/-- A hook of an abort goes on record when it begins. -/
theorem shows_of_runHook (hs : s.OwnsUp) (htag : tag.name = abortName)
    (hrun : p.runHook s hook tag result st = (answer, st₁)) : st₁.ShowsAbort := by
  rw [show st₁ = (p.runHook s hook tag result st).2 by rw [hrun]]
  have hbegins : (Event.hookBegins hook tag st.depth st.includeDepth).ofAbort = true :=
    beq_iff_eq.mpr htag
  exact (p.run_keeps hs (RenderState.showsAbort_note hbegins)).note _

theorem Yields.runHook_shows (hs : s.OwnsUp) {good : α → Prop}
    (hp : p.Yields Rendered.IsCalm good) {a : α}
    (hrun : p.runHook s hook tag result st = (.ok a, st₁)) : good a ∨ st₁.ShowsAbort := by
  have hanswer : (p.run s (st.note (.hookBegins hook tag st.depth st.includeDepth))).1 = .ok a :=
    congrArg Prod.fst hrun
  rw [show st₁ = (p.runHook s hook tag result st).2 by rw [hrun]]
  exact (hp.run_shows hs hanswer).imp_right fun h => h.note _

end Program

namespace Handler

variable {h : Handler} {e : Element}

/-- An abort that is on record stays there. -/
theorem keeps_showsAbort (hs : s.OwnsUp) : h.Keeps RenderState.ShowsAbort e s where
  guard hst hrun := Program.keeps_of_runHook hs hrun hst
  enter hst hrun := Program.keeps_of_runHook hs hrun hst
  body {st _ st₁} hst hrun := by
    have hinside : (h.inBody st).ShowsAbort := hst
    have hafter : st₁.ShowsAbort := Program.keeps_of_runHook hs hrun hinside
    exact hafter
  exit hst hrun := Program.keeps_of_runHook hs hrun hst

/-- A tag that aborts is an abort itself, or there is one in what it has rendered. -/
theorem activate_shows (hs : s.OwnsUp) (hh : e.tag.name ≠ abortName → h.IsInnocent) {ran : Bool}
    (hflow : (h.activate e s st).outcome = .ok (.abort, ran)) :
    (h.activate e s st).state.ShowsAbort := by
  obtain ⟨text, st₁, st₂, hbody, hstate⟩ := body_of_activate (by decide) hflow
  have hshows : st₂.ShowsAbort := by
    by_cases htag : e.tag.name = abortName
    · exact Program.shows_of_runHook hs htag hbody
    · exact ((hh htag e).runHook_shows hs hbody).resolve_left fun hcalm => hcalm rfl
  rw [hstate]
  exact hshows

theorem activateWithin_keeps (hs : s.OwnsUp) (hst : st.ShowsAbort) :
    (h.activateWithin e s st).state.ShowsAbort := by
  refine activateWithin_cases (fun _ => ?_) fun _ => hst
  have hopened : (st.inside e).ShowsAbort := hst
  exact ((keeps_showsAbort hs).activate hopened).outside e

theorem activateWithin_shows (hs : s.OwnsUp) (hh : e.tag.name ≠ abortName → h.IsInnocent)
    {ran : Bool} (hflow : (h.activateWithin e s st).outcome = .ok (.abort, ran)) :
    (h.activateWithin e s st).state.ShowsAbort := by
  by_cases hfits : e.Fits s.limits st
  · rw [activateWithin_of_fits hfits] at hflow ⊢
    exact (activate_shows hs hh hflow).outside e
  · rw [activateWithin_of_full hfits] at hflow
    cases hflow

end Handler

/-! ## Rows of siblings -/

/-- The same of walks. -/
structure Walker.OwnsUp (walk : Walker) : Prop where
  keeps : ∀ {chain out} {st : RenderState}, st.ShowsAbort →
    (walk chain out st).state.ShowsAbort
  shows : ∀ {chain out} {st : RenderState}, (walk chain out st).outcome = .ok .abort →
    (walk chain out st).state.ShowsAbort

theorem Walker.OwnsUp.pass {walk : Walker} (h : walk.OwnsUp) :
    Render.OwnsUp (Setting.pass walk) where
  keeps hst := (h.keeps (hst.note _)).note _
  shows hflow := (h.shows hflow).note _

namespace Setting

/-- A setting in which nothing aborts but aborts. -/
structure OwnsUp (s : Setting) : Prop where
  handlers : ∀ name h, s.registry.get? name = some h → name ≠ abortName → h.IsInnocent
  embed : ∀ path, Render.OwnsUp (s.embed path)

variable {s : Setting} {e : Element} {region : Region → Render} {chain : Chain} {out : String}

theorem visit_keeps (hs : s.OwnsUp) (hregion : ∀ r, Render.OwnsUp (region r))
    (hst : st.ShowsAbort) : (s.visit e region chain out st).state.ShowsAbort := by
  have hsurroundings : Surroundings.OwnsUp ⟨s.limits, region, s.embed⟩ := ⟨hregion, hs.embed⟩
  exact visit_state_cases hst fun _ _ => Handler.activateWithin_keeps hsurroundings hst

theorem visit_shows (hs : s.OwnsUp) (hregion : ∀ r, Render.OwnsUp (region r)) {w : Walk}
    (hvisit : s.visit e region chain out st = .ends w) (hflow : w.outcome = .ok .abort) :
    w.state.ShowsAbort := by
  have hsurroundings : Surroundings.OwnsUp ⟨s.limits, region, s.embed⟩ := ⟨hregion, hs.embed⟩
  have hvisits := s.visits_visit e region chain out st
  rw [hvisit] at hvisits
  cases hvisits with
  | unknown => cases hflow
  | misplaced => cases hflow
  | fails => cases hflow
  | @breaksOff h text flow ran st₁ _ hname _ ha =>
    cases hflow
    have houtcome : (h.activateWithin e ⟨s.limits, region, s.embed⟩ st).outcome =
        .ok (.abort, ran) := by rw [ha]
    have hshows := Handler.activateWithin_shows hsurroundings (hs.handlers _ h hname) houtcome
    rw [ha] at hshows
    exact hshows

/-- The walk over some siblings. -/
theorem walk_ownsUp (hs : s.OwnsUp) (nodes : List Node) : (s.walk nodes).OwnsUp := by
  induction nodes using siblings_induction with
  | nil => exact ⟨id, nofun⟩
  | text text rest ih => exact ⟨fun hst => ih.keeps hst, fun hflow => ih.shows hflow⟩
  | interpolation expression span rest ih =>
    exact ⟨fun hst => ih.keeps hst, fun hflow => ih.shows hflow⟩
  | tag e rest hrows ih =>
    have hregion : ∀ region, Render.OwnsUp (pass (s.walk (e.row region))) :=
      fun region => (hrows region).pass
    refine ⟨fun {chain out st} hst => ?_, fun {chain out st} hflow => ?_⟩
    · have hvisit : (s.visit e (fun region => pass (s.walk (e.row region))) chain out
          st).state.ShowsAbort := visit_keeps hs hregion hst
      rw [walk_tag]
      cases hstep : s.visit e (fun region => pass (s.walk (e.row region))) chain out st with
      | goesOn chain' out' st' =>
        rw [hstep] at hvisit
        exact ih.keeps hvisit
      | ends w =>
        rw [hstep] at hvisit
        exact hvisit
    · rw [walk_tag] at hflow ⊢
      cases hstep : s.visit e (fun region => pass (s.walk (e.row region))) chain out st with
      | goesOn chain' out' st' =>
        rw [hstep] at hflow
        exact ih.shows hflow
      | ends w =>
        rw [hstep] at hflow
        exact visit_shows hs hregion hstep hflow

end Setting

end TagTemplate
