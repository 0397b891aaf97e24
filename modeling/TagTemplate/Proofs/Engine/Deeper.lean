import TagTemplate.Proofs.Engine.Blocks
import TagTemplate.Proofs.Render.Following

/-!
# The same render further in

How many blocks are open matters for nothing but the limit on them. A render that begins with some
more of them open comes to the same, unless it fails because a block nests too deep
(`Setting.walk_deeper`). This takes handlers that pass on the errors in what they had rendered: one
that recovers from an error could put the failure to some use.
-/

namespace TagTemplate

variable {α : Type} {k : Nat} {st : RenderState}

/-- The state with some more blocks open. -/
def RenderState.deeper (k : Nat) (st : RenderState) : RenderState :=
  { st with depth := st.depth + k }

/-- Unless a block nests too deep, the render comes to the same with some more blocks open. -/
def Render.SameDeeper (k : Nat) (render : Render) : Prop :=
  ∀ st, st.journal = none → Spared (render (st.deeper k)).1.outcome →
    render (st.deeper k) = ((render st).1, (render st).2.deeper k)

/-- Surroundings in which nothing begins a journal, and in which what is rendered comes to the same
with some more blocks open. -/
structure Surroundings.SameDeeper (k : Nat) (s : Surroundings) : Prop where
  restores : s.Restores
  unwatched : s.Alike s
  region : ∀ region, Render.SameDeeper k (s.region region)
  embed : ∀ path, Render.SameDeeper k (s.embed path)

variable {s : Surroundings}

/-! ## Hooks -/

namespace Program

/-- A program that passes errors on is spared only if what it has rendered is. -/
theorem spared_of_next {next : Rendered → Program α} {rendered : Rendered}
    (hfails : ∀ text e, (next ⟨text, .error e⟩).FailsWith e)
    (hspared : Spared ((next rendered).run s st).1) : Spared rendered.outcome := by
  rcases rendered with ⟨text, e | flow⟩
  · rw [((hfails text e).run st).1] at hspared
    exact hspared.of_error
  · exact spared_ok flow

/-- After an error there is nothing to pass on. -/
theorem FailsWith.passesOn {error : RenderError} {p : Program α} (hp : p.FailsWith error) :
    p.PassesOn := by
  induction p with
  | done => trivial
  | fail => trivial
  | look next ih => exact fun view => ih view (hp view)
  | update change next ih => exact ih hp
  | render => exact hp.elim
  | embed => exact hp.elim

theorem PassesOn.next {next : Rendered → Program α}
    (hfails : ∀ text e, (next ⟨text, .error e⟩).FailsWith e)
    (hok : ∀ text flow, (next ⟨text, .ok flow⟩).PassesOn) (rendered : Rendered) :
    (next rendered).PassesOn := by
  rcases rendered with ⟨text, e | flow⟩
  · exact (hfails text e).passesOn
  · exact hok text flow

/-- A program comes to the same further in. -/
theorem PassesOn.run_deeper (hs : s.SameDeeper k) {p : Program α} (hp : p.PassesOn)
    (hst : st.journal = none) (hspared : Spared (p.run s (st.deeper k)).1) :
    p.run s (st.deeper k) = ((p.run s st).1, (p.run s st).2.deeper k) := by
  induction p generalizing st with
  | done result => rfl
  | fail error => rfl
  | look next ih => exact ih _ (hp _) hst hspared
  | update change next ih =>
    have hupdated : RenderState.journal { st with scope := change st.scope } = none := hst
    exact ih hp hupdated hspared
  | render region next ih =>
    rw [run_render] at hspared
    have hsame := hs.region region st hst (spared_of_next hp.1 hspared)
    rw [hsame] at hspared
    rw [run_render, run_render, hsame]
    exact ih _ (.next hp.1 hp.2 _) (hs.unwatched.region region st hst).2 hspared
  | embed path next ih =>
    rw [run_embed] at hspared
    have hsame := hs.embed path st hst (spared_of_next hp.1 hspared)
    rw [hsame] at hspared
    rw [run_embed, run_embed, hsame]
    exact ih _ (.next hp.1 hp.2 _) (hs.unwatched.embed path st hst).2 hspared

/-- So does a hook. -/
theorem PassesOn.runHook_deeper (hs : s.SameDeeper k) {p : Program α} (hp : p.PassesOn)
    {hook : Hook} {tag : Tag} {result : Except RenderError α → HookResult}
    {answer : Except RenderError α} {st₁' : RenderState} (hst : st.journal = none)
    (hrun : p.runHook s hook tag result (st.deeper k) = (answer, st₁')) (hspared : Spared answer) :
    ∃ st₁, p.runHook s hook tag result st = (answer, st₁) ∧ st₁' = st₁.deeper k ∧
      st₁.journal = none := by
  have hdeep : (st.deeper k).journal = none := hst
  have hafter := (p.run_alike hs.unwatched hst).2
  have hplain := runHook_of_unwatched hst hafter rfl hook tag result
  obtain ⟨hdeeper, -⟩ := run_of_runHook hs.unwatched hdeep hrun
  have hsame := hp.run_deeper hs hst (by rwa [hdeeper])
  obtain ⟨rfl, rfl⟩ := Prod.mk.inj (hdeeper.symm.trans hsame)
  exact ⟨_, hplain, rfl, hafter⟩

end Program

/-! ## Activations -/

/-- The activation with some more blocks open after it. -/
def Activation.deeper (k : Nat) (a : Activation) : Activation :=
  { a with state := a.state.deeper k }

/-- A tag that is closed further in leaves so many more blocks open. -/
theorem Activation.leaving_deeper {a : Activation} {e : Element} {depth : Nat}
    (hdepth : a.state.depth = e.depthInside depth) :
    (a.deeper k).leaving e = (a.leaving e).deeper k := by
  have hdeeper : (a.state.deeper k).depth = e.depthInside (depth + k) := by
    show a.state.depth + k = _
    rw [hdepth]
    rcases e with ⟨tag, _ | children⟩
    · rfl
    · exact Nat.add_right_comm depth 1 k
  show Activation.mk _ _ ((a.state.deeper k).outside e) =
    Activation.mk _ _ ((a.state.outside e).deeper k)
  rw [RenderState.outside_of_depth hdeeper, RenderState.outside_of_depth hdepth]
  rfl

namespace Handler.PassesOn

variable {h : Handler} {e : Element}

/-- A body comes to the same, and so does the state after it with the flag put back. -/
theorem runBody_deeper (hh : h.PassesOn) (hs : s.SameDeeper k)
    {answer : Except RenderError (String × Flow)} {st₁' : RenderState} (hst : st.journal = none)
    (hrun : (h.body e).runHook s .body e.tag .body (h.inBody (st.deeper k)) = (answer, st₁'))
    (hspared : Spared answer) :
    ∃ st₁, (h.body e).runHook s .body e.tag .body (h.inBody st) = (answer, st₁) ∧
      st₁'.afterBody (st.deeper k) = (st₁.afterBody st).deeper k ∧
      (st₁.afterBody st).journal = none := by
  have hinside : (h.inBody st).journal = none := hst
  obtain ⟨st₁, hbody, rfl, hafter⟩ := (hh.body e).runHook_deeper hs hinside hrun hspared
  exact ⟨st₁, hbody, rfl, hafter⟩

/-- Each of its hooks comes to the same. -/
theorem sameRun (hh : h.PassesOn) (hs : s.SameDeeper k) :
    h.SameRun (·.isTooDeep = false) (fun st' st => st' = st.deeper k ∧ st.journal = none) e e s
      s where
  guard := by
    rintro _ st answer st₁' ⟨rfl, hst⟩ hrun hspared
    exact (hh.guard e).runHook_deeper hs hst hrun hspared
  enter := by
    rintro _ st answer st₁' ⟨rfl, hst⟩ hrun hspared
    exact (hh.enter e).runHook_deeper hs hst hrun hspared
  body := by
    rintro _ st answer st₁' ⟨rfl, hst⟩ hrun hspared
    exact hh.runBody_deeper hs hst hrun hspared
  exit := by
    rintro text _ st answer st₁' ⟨rfl, hst⟩ hrun hspared
    exact (hh.exit e text).runHook_deeper hs hst hrun hspared

theorem activate_deeper (hh : h.PassesOn) (hs : s.SameDeeper k) (hst : st.journal = none)
    (hspared : Spared (h.activate e s (st.deeper k)).outcome) :
    h.activate e s (st.deeper k) = (h.activate e s st).deeper k := by
  obtain ⟨htext, houtcome, hstate, -⟩ := (hh.sameRun hs).activate ⟨rfl, hst⟩ hspared
  show _ = Activation.mk _ _ _
  rw [htext, houtcome, ← hstate]

/-- A tag for which there is room further in has room here. -/
theorem activateWithin_deeper (hh : h.PassesOn) (hs : s.SameDeeper k) (hst : st.journal = none)
    (hspared : Spared (h.activateWithin e s (st.deeper k)).outcome) :
    h.activateWithin e s (st.deeper k) = (h.activateWithin e s st).deeper k := by
  have hfits : e.Fits s.limits (st.deeper k) := by
    by_contra hfull
    rw [activateWithin_of_full hfull] at hspared
    exact nomatch hspared _ rfl
  have hfits' : e.Fits s.limits st :=
    fun hblock => Nat.lt_of_le_of_lt (Nat.le_add_right ..) (hfits hblock)
  have hinside : (st.deeper k).inside e = (st.inside e).deeper k := by
    rcases e with ⟨tag, _ | children⟩
    · rfl
    · exact congrArg (fun depth => { st with depth }) (Nat.add_right_comm st.depth k 1)
  have hinsideOff : (st.inside e).journal = none := hst
  have hdepth : (h.activate e s (st.inside e)).state.depth = e.depthInside st.depth :=
    congrArg Books.depth (books_activate hs.restores e (st.inside e))
  rw [activateWithin_of_fits hfits, hinside] at hspared
  rw [activateWithin_of_fits hfits, activateWithin_of_fits hfits', hinside,
    hh.activate_deeper hs hinsideOff hspared, Activation.leaving_deeper hdepth]

end Handler.PassesOn

/-! ## Walks -/

/-- The walk with some more blocks open after it. -/
def Walk.deeper (k : Nat) (w : Walk) : Walk := { w with state := w.state.deeper k }

/-- The step with some more blocks open after it. -/
def Step.deeper (k : Nat) : Step → Step
  | .goesOn chain out st => .goesOn chain out (st.deeper k)
  | .ends w => .ends (w.deeper k)

/-- A walk is spared only if its first step is. -/
theorem Step.spared_of_andThen {step : Step} {rest : Walker}
    (h : TagTemplate.Spared (step.andThen rest).outcome) : step.Spared := by
  cases step with
  | goesOn => exact trivial
  | ends w => exact h

/-- Unless a block nests too deep, the walk comes to the same with some more blocks open. -/
def Walker.SameDeeper (k : Nat) (walk : Walker) : Prop :=
  ∀ chain out st, st.journal = none → Spared (walk chain out (st.deeper k)).outcome →
    walk chain out (st.deeper k) = (walk chain out st).deeper k

theorem Walker.SameDeeper.pass {walk : Walker} (h : walk.SameDeeper k) (hwatch : walk.Alike walk) :
    Render.SameDeeper k (Setting.pass walk) := by
  intro st hst hspared
  have hdeep : (st.deeper k).journal = none := hst
  rw [Setting.pass_of_unwatched hdeep rfl (hwatch none "" _ hdeep).2] at hspared
  rw [Setting.pass_of_unwatched hdeep rfl (hwatch none "" _ hdeep).2,
    Setting.pass_of_unwatched hst rfl (hwatch none "" st hst).2, h none "" st hst hspared]
  rfl

namespace Setting

variable {s : Setting}

theorem Tidy.node_unwatched (hs : s.Tidy) (node : Node) (chain : Chain) (out : String)
    (hst : st.journal = none) : (s.node node chain out st).state.journal = none := by
  have hwalk := (hs.walk_unwatched [node] chain out st hst).2
  rw [walk] at hwalk
  cases hstep : s.node node chain out st with
  | goesOn chain' out' st' =>
    rw [hstep] at hwalk
    exact hwalk
  | ends w =>
    rw [hstep] at hwalk
    exact hwalk

theorem visit_deeper (hr : s.registry.PassesOn) {region : Region → Render}
    (hs : Surroundings.SameDeeper k ⟨s.limits, region, s.embed⟩) {e : Element} {chain : Chain}
    {out : String} (hst : st.journal = none)
    (hspared : (s.visit e region chain out (st.deeper k)).Spared) :
    s.visit e region chain out (st.deeper k) = (s.visit e region chain out st).deeper k := by
  have hactivation : ∀ h, s.registry.get? e.tag.name = some h →
      TagTemplate.Spared (h.activateWithin e ⟨s.limits, region, s.embed⟩ (st.deeper k)).outcome →
      Activation.Related (fun st' st => st' = st.deeper k)
        (h.activateWithin e ⟨s.limits, region, s.embed⟩ (st.deeper k))
        (h.activateWithin e ⟨s.limits, region, s.embed⟩ st) := by
    intro h hname ha
    rw [(hr _ _ hname).activateWithin_deeper hs hst ha]
    exact ⟨rfl, rfl, rfl⟩
  have hboth : Step.Related (fun st' st => st' = st.deeper k)
      (s.visit e region chain out (st.deeper k)) (s.visit e region chain out st) :=
    visit_related rfl rfl rfl hactivation rfl chain out hspared
  generalize s.visit e region chain out (st.deeper k) = step' at hboth ⊢
  generalize s.visit e region chain out st = step at hboth ⊢
  cases hboth with
  | goesOn h =>
    rw [h]
    rfl
  | ends h =>
    rw [h]
    rfl

/-- A row of siblings comes to the same with some more blocks open, unless a block nests too deep.
-/
theorem walk_deeper (hs : s.Tidy) (hr : s.registry.PassesOn)
    (hembed : ∀ path, Render.SameDeeper k (s.embed path)) (nodes : List Node) :
    Walker.SameDeeper k (s.walk nodes) := by
  induction nodes using siblings_induction with
  | nil => exact fun _ _ _ _ _ => rfl
  | text text rest ih => exact fun _ _ st hst hspared => ih _ _ st hst hspared
  | interpolation expression span rest ih =>
    exact fun _ _ st hst hspared => ih _ _ st hst hspared
  | tag e rest hrows ih =>
    intro chain out st hst hspared
    have haround : (s.around e).SameDeeper k :=
      ⟨hs.restores e, hs.unwatched e, fun region => (hrows region).pass (hs.walk_unwatched _),
        hembed⟩
    have hafter := hs.node_unwatched e.node chain out hst
    rw [node_tag] at hafter
    rw [walk_tag] at hspared
    have hvisit : s.visit e (fun region => pass (s.walk (e.row region))) chain out (st.deeper k) =
        (s.visit e (fun region => pass (s.walk (e.row region))) chain out st).deeper k :=
      visit_deeper hr haround hst (Step.spared_of_andThen hspared)
    rw [hvisit] at hspared
    rw [walk_tag, walk_tag, hvisit]
    cases hstep : s.visit e (fun region => pass (s.walk (e.row region))) chain out st with
    | goesOn chain' out' st' =>
      rw [hstep] at hspared hafter
      exact ih chain' out' st' hafter hspared
    | ends w => rfl

end Setting

/-! ## Includes -/

namespace Engine

variable {engine : Engine}

theorem renderOpened_deeper {walk : Walker} (h : walk.SameDeeper k) (hwatch : walk.Alike walk) :
    Render.SameDeeper k (renderOpened walk) := by
  intro st hst hspared
  have hopened := h.pass hwatch
    { st with interpolating := false, includeDepth := st.includeDepth + 1 } hst hspared
  -- what is put back after the template is the same in both runs
  exact congrArg (fun result : Rendered × RenderState => (result.1, { result.2 with
    interpolating := st.interpolating, includeDepth := result.2.includeDepth - 1 })) hopened

/-- So does an include. -/
theorem embed_deeper (hbuiltin : engine.registry = Builtin.registry) (budget : Nat)
    (path : String) : Render.SameDeeper k (engine.embed budget path) := by
  have hpasses : engine.registry.PassesOn := by
    rw [hbuiltin]
    exact Builtin.registry_raises.passesOn
  induction budget generalizing path with
  | zero => exact fun _ _ _ => rfl
  | succ budget ih =>
    intro st hst hspared
    have hs := settingAt_tidy hbuiltin budget
    have hwalk := Setting.walk_deeper hs hpasses ih
    rw [embed_succ] at hspared
    rw [embed_succ]
    by_cases hfull : engine.limits.maxIncludeDepth ≤ st.includeDepth
    · have hfull' : engine.limits.maxIncludeDepth ≤ (st.deeper k).includeDepth := hfull
      rw [opening_of_full hfull, opening_of_full hfull']
    · have hroom : st.includeDepth < engine.limits.maxIncludeDepth := Nat.not_le.mp hfull
      have hroom' : (st.deeper k).includeDepth < engine.limits.maxIncludeDepth := hroom
      cases hfetch : engine.fetch path with
      | error e => rw [opening_of_fetch_error hroom hfetch, opening_of_fetch_error hroom' hfetch]
      | ok template =>
        rw [opening_of_fetch hroom' hfetch] at hspared
        rw [opening_of_fetch hroom' hfetch, opening_of_fetch hroom hfetch]
        exact renderOpened_deeper (hwalk template.nodes) (hs.walk_unwatched template.nodes) st hst
          hspared

end Engine

end TagTemplate
