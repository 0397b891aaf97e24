import TagTemplate.Proofs.Engine.Pasting
import TagTemplate.Proofs.Engine.Spellings
import TagTemplate.Proofs.Render.Journal

/-!
# What a tag makes of its body

Many tags do no more than decide what is rendered in their place: a branch its body if its condition
holds, a loop its body again and again, a switch the body of one of its children. Such a tag comes
to what is rendered, enclosed in one more block that is open (`Setting.node_of_body`); and a block
for which there is no room fails before any of its hooks is called (`Setting.node_of_full`).
-/

namespace TagTemplate

variable {s : Setting} {e : Element} {h : Handler} {chain : Chain} {out : String}
  {st : RenderState}

/-! ## Steps and activations -/

/-- The step with another chain of branches before the siblings that follow. -/
def Step.withChain (chain : Chain) : Step → Step
  | .goesOn _ out st => .goesOn chain out st
  | .ends w => .ends w

theorem Step.withChain_andThen (step : Step) (chain : Chain) (rest : Walker) :
    (step.withChain chain).andThen rest = step.andThen fun _ => rest chain := by
  cases step with
  | goesOn => rfl
  | ends => rfl

/-- Where a tag comes to what was rendered, the chain after it is that of a branch that has run. -/
theorem Activation.step_ofRendered (branch : Option Branch) (out : String) (rendered : Rendered)
    (st : RenderState) : (Activation.ofRendered rendered st).step branch out =
      (Step.ofRendered out rendered st).withChain (chainAfter branch true) := by
  rcases rendered with ⟨text, error | flow⟩
  · rfl
  · cases flow with
    | _ => rfl

/-- What is rendered leaves no chain of branches behind. -/
theorem Step.withChain_none_ofRendered (out : String) (rendered : Rendered) (st : RenderState) :
    (Step.ofRendered out rendered st).withChain none = Step.ofRendered out rendered st :=
  (Activation.step_ofRendered none out rendered st).symm

/-! ## Programs and hooks -/

namespace Program

variable {α : Type} {surroundings : Surroundings}

/-- The program comes to what was rendered: its text with what becomes of the siblings, or its
error. -/
def ComesTo (p : Program (String × Flow)) (s : Surroundings) (st : RenderState)
    (result : Rendered × RenderState) : Prop :=
  p.run s st = (result.1.outcome.map (result.1.text, ·), result.2)

theorem passOn_comesTo (rendered : Rendered) (s : Surroundings) (st : RenderState) :
    (passOn rendered).ComesTo s st (rendered, st) := by
  rcases rendered with ⟨text, error | flow⟩
  · rfl
  · rfl

/-- A region that is rendered. -/
theorem rendered_comesTo (s : Surroundings) (region : Region) (st : RenderState) :
    (rendered region).ComesTo s st (s.region region st) :=
  passOn_comesTo (s.region region st).1 s (s.region region st).2

/-- Without a journal a hook does what its program does. -/
theorem runHook_of_unwatched {p : Program α} {answer : Except RenderError α}
    {st₁ : RenderState} (hst : st.journal = none) (hst₁ : st₁.journal = none)
    (hrun : p.run surroundings st = (answer, st₁)) (hook : Hook) (tag : Tag)
    (result : Except RenderError α → HookResult) :
    p.runHook surroundings hook tag result st = (answer, st₁) := by
  rw [runHook, RenderState.note_of_none hst, hrun]
  exact congrArg (Prod.mk answer) (RenderState.note_of_none hst₁ _)

/-- And no more than that, as long as nothing that is rendered begins a journal. -/
theorem run_of_runHook (hs : surroundings.Alike surroundings) {p : Program α}
    {answer : Except RenderError α} {st₁ : RenderState} {hook : Hook} {tag : Tag}
    {result : Except RenderError α → HookResult} (hst : st.journal = none)
    (hrun : p.runHook surroundings hook tag result st = (answer, st₁)) :
    p.run surroundings st = (answer, st₁) ∧ st₁.journal = none := by
  have hafter := (p.run_alike hs hst).2
  have hplain := runHook_of_unwatched hst hafter rfl hook tag result
  obtain ⟨rfl, rfl⟩ := Prod.mk.inj (hrun.symm.trans hplain)
  exact ⟨rfl, hafter⟩

end Program

/-! ## Activations -/

namespace Handler

variable {surroundings : Surroundings} {result : Rendered × RenderState}

/-- The tag runs, and its handler adds nothing to what the body comes to. -/
structure AddsNothing (h : Handler) (e : Element) (s : Surroundings) (st : RenderState) : Prop where
  guard : (h.guard e).run s st = (.ok true, st)
  enter : h.enter e = .done ()
  exit : ∀ text, h.exit e text = .done text

/-- The activation comes to what the body does. -/
theorem activate_of_body (hadds : h.AddsNothing e surroundings st) (hst : st.journal = none)
    (hbody : (h.body e).ComesTo surroundings (h.inBody st) result)
    (hafter : result.2.journal = none) :
    h.activate e surroundings st = .ofRendered result.1 (result.2.afterBody st) := by
  have hguard := Program.runHook_of_unwatched hst hst hadds.guard .guard e.tag .guard
  have henter : (h.enter e).runHook surroundings .enter e.tag .enter st = (.ok (), st) := by
    rw [hadds.enter]
    exact Program.runHook_of_unwatched hst hst rfl ..
  have hinside : (h.inBody st).journal = none := hst
  have hoff : (result.2.afterBody st).journal = none := hafter
  have hbody' := Program.runHook_of_unwatched hinside hafter hbody .body e.tag .body
  -- Whether the last hook is called depends on how the body ends.
  rcases result with ⟨⟨text, error | flow⟩, after⟩
  · exact (Activates.bodyFails hguard henter hbody').eq
  cases flow with
  | proceed =>
    have hexit : (h.exit e text).runHook surroundings .exit e.tag (.exit text)
        (after.afterBody st) = (.ok text, after.afterBody st) := by
      rw [hadds.exit]
      exact Program.runHook_of_unwatched hoff hoff rfl ..
    exact (Activates.exits hguard henter hbody' hexit).eq
  | breakLoop => exact (Activates.bodyEnds (by decide) hguard henter hbody').eq
  | abort => exact (Activates.bodyEnds (by decide) hguard henter hbody').eq

end Handler

/-! ## Blocks -/

theorem Activation.leaving_ofRendered (rendered : Rendered) (st : RenderState) (e : Element) :
    (Activation.ofRendered rendered st).leaving e = .ofRendered rendered (st.outside e) := by
  rcases rendered with ⟨text, error | flow⟩
  · rfl
  · rfl

/-- What is rendered in the body of a tag: one more block is open if the tag is one, and references
are replaced or not as its handler says. Both are put back after it. -/
def Element.enclose (e : Element) (replaces : Option Bool) (render : Render) : Render := fun st =>
  let (rendered, after) :=
    render { st.inside e with interpolating := replaces.getD st.interpolating }
  (rendered, { after with depth := st.depth, interpolating := st.interpolating })

theorem Element.enclose_eq {replaces : Option Bool} {render : Render} {rendered : Rendered}
    {after : RenderState}
    (h : render { st.inside e with interpolating := replaces.getD st.interpolating } =
      (rendered, after)) :
    e.enclose replaces render st =
      (rendered, { after with depth := st.depth, interpolating := st.interpolating }) := by
  rw [enclose, h]

/-- Everything that is rendered in the setting puts the books back, and begins no journal. -/
structure Setting.Tidy (s : Setting) : Prop where
  walk_restores : ∀ nodes, (s.walk nodes).Restores
  walk_unwatched : ∀ nodes, (s.walk nodes).Alike (s.walk nodes)
  embed_restores : ∀ path, Render.Restores (s.embed path)
  embed_unwatched : ∀ path, Render.Alike (s.embed path) (s.embed path)

namespace Setting

/-- Without a journal a pass comes to what its walk does. -/
theorem pass_of_unwatched {walk : Walker} {w : Walk} (hst : st.journal = none)
    (hwalk : walk none "" st = w) (hw : w.state.journal = none) :
    pass walk st = (⟨w.out, w.outcome⟩, w.state) := by
  simp only [pass, RenderState.note_of_none hst, hwalk, RenderState.note_of_none hw]

/-- What surrounds the hooks of a tag. -/
def around (s : Setting) (e : Element) : Surroundings :=
  ⟨s.limits, fun region => pass (s.walk (e.row region)), s.embed⟩

namespace Tidy

variable (hs : s.Tidy)
include hs

theorem restores (e : Element) : (s.around e).Restores :=
  ⟨fun region => (hs.walk_restores (e.row region)).pass, hs.embed_restores⟩

theorem unwatched (e : Element) : (s.around e).Alike (s.around e) :=
  ⟨rfl, fun region => (hs.walk_unwatched (e.row region)).pass, hs.embed_unwatched⟩

end Tidy

/-- A tag whose handler adds nothing to what the body comes to. -/
theorem activateWithin_of_body (hs : s.Tidy) {render : Render}
    (hfits : e.Fits s.limits st) (hst : st.journal = none)
    (hadds : h.AddsNothing e (s.around e) (st.inside e))
    (hbody : (h.body e).ComesTo (s.around e) (h.inBody (st.inside e))
      (render (h.inBody (st.inside e)))) :
    h.activateWithin e (s.around e) st =
      .ofRendered (e.enclose h.interpolation render st).1
        (e.enclose h.interpolation render st).2 := by
  have hinside : (h.inBody (st.inside e)).journal = none := hst
  have hrun := Program.books_run (hs.restores e) (h.body e) (h.inBody (st.inside e))
  have hafter := (Program.run_alike (hs.unwatched e) (h.body e) hinside).2
  rw [hbody] at hrun hafter
  have hdepth : ((render (h.inBody (st.inside e))).2.afterBody (st.inside e)).depth =
      e.depthInside st.depth := congrArg Books.depth hrun
  rw [Handler.activateWithin_of_fits hfits, Handler.activate_of_body hadds hst hbody hafter,
    Activation.leaving_ofRendered, RenderState.outside_of_depth hdepth]
  rfl

/-- Among its siblings such a tag comes to what its body does. -/
theorem node_of_body (hs : s.Tidy) (chain : Chain) (out : String) {render : Render}
    (hname : s.registry.get? e.tag.name = some h) (hturn : turn h.branch chain = .run)
    (hfits : e.Fits s.limits st) (hst : st.journal = none)
    (hadds : h.AddsNothing e (s.around e) (st.inside e))
    (hbody : (h.body e).ComesTo (s.around e) (h.inBody (st.inside e))
      (render (h.inBody (st.inside e)))) :
    s.node e.node chain out st =
      (Step.ofRendered out (e.enclose h.interpolation render st).1
        (e.enclose h.interpolation render st).2).withChain (chainAfter h.branch true) := by
  have ha := activateWithin_of_body hs hfits hst hadds hbody
  rw [node_tag, visit_of_run hname hturn, ← Activation.step_ofRendered]
  exact congrArg (Activation.step · h.branch out) ha

/-- Among its siblings, too. -/
theorem node_of_full (hname : s.registry.get? e.tag.name = some h)
    (hturn : turn h.branch chain = .run) (hblock : e.body.isSome = true)
    (hfull : s.limits.maxDepth ≤ st.depth) :
    s.node e.node chain out st =
      .ends ⟨out, .error (.tooDeep s.limits.maxDepth e.tag.span.line), st⟩ := by
  have hfits : ¬e.Fits (s.around e).limits st := fun hfits => Nat.not_le.mpr (hfits hblock) hfull
  rw [node_tag]
  exact (Visits.fails hname hturn (Handler.activateWithin_of_full hfits)).eq

end Setting

/-! ## Guards -/

/-- The state after the guard of a tag was asked: as before it, but for the journal. -/
def RenderState.asked (st : RenderState) (e : Element) (answer : Except RenderError Bool) :
    RenderState :=
  (st.note (.hookBegins .guard e.tag (e.depthInside st.depth) st.includeDepth)).note
    (.hookEnds e.tag (.guard answer))

theorem RenderState.asked_of_unwatched (hst : st.journal = none) (e : Element)
    (answer : Except RenderError Bool) : st.asked e answer = st := by
  rw [asked, note_of_none hst, note_of_none hst]

@[simp]
theorem RenderState.scope_asked (st : RenderState) (e : Element)
    (answer : Except RenderError Bool) : (st.asked e answer).scope = st.scope := by
  rw [asked, scope_note, scope_note]

@[simp]
theorem RenderState.books_asked (st : RenderState) (e : Element)
    (answer : Except RenderError Bool) : (st.asked e answer).books = st.books := by
  rw [asked, books_note, books_note]

/-- The guard does no more than look at the variables. -/
def Handler.Answers (h : Handler) (e : Element) (scope : Scope)
    (answer : Except RenderError Bool) : Prop :=
  ∀ (surroundings : Surroundings) (st : RenderState), st.scope = scope →
    (h.guard e).run surroundings st = (answer, st)

theorem RenderState.note_inside (st : RenderState) (e : Element) (event : Event) :
    (st.inside e).note event = (st.note event).inside e := by
  rcases st with ⟨scope, interpolating, depth, includeDepth, _ | journal⟩
  · rfl
  · rfl

theorem RenderState.outside_inside (st : RenderState) (e : Element) :
    (st.inside e).outside e = st := by
  have hdepth : (st.inside e).depth = e.depthInside st.depth := rfl
  rw [outside_of_depth hdepth]
  rfl

theorem Handler.Answers.runHook {answer : Except RenderError Bool}
    (hguard : h.Answers e st.scope answer) (surroundings : Surroundings) :
    (h.guard e).runHook surroundings .guard e.tag .guard (st.inside e) =
      (answer, (st.asked e answer).inside e) := by
  have hscope : ((st.inside e).note (.hookBegins .guard e.tag (st.inside e).depth
      (st.inside e).includeDepth)).scope = st.scope := RenderState.scope_note _ _
  rw [Program.runHook, hguard surroundings _ hscope, RenderState.note_inside]
  exact congrArg (Prod.mk answer) (RenderState.note_inside ..)

/-- A tag whose guard lets it run has run, if its activation is no failure. -/
theorem Handler.Answers.ran {surroundings : Surroundings} {flow : Flow} {ran : Bool}
    (hguard : h.Answers e st.scope (.ok true))
    (ha : (h.activateWithin e surroundings st).outcome = .ok (flow, ran)) : ran = true := by
  by_cases hfits : e.Fits surroundings.limits st
  · rw [activateWithin_of_fits hfits] at ha
    -- of all that an activation can be, only a declined guard has not run the tag
    have hactivates := h.activates_activate e surroundings (st.inside e)
    change (h.activate e surroundings (st.inside e)).outcome = _ at ha
    generalize h.activate e surroundings (st.inside e) = a at ha hactivates
    cases hactivates with
    | guardFails => cases ha
    | guardDeclines hdeclines =>
      rw [hguard.runHook] at hdeclines
      cases hdeclines
    | enterFails => cases ha
    | bodyFails => cases ha
    | bodyEnds =>
      cases ha
      rfl
    | exitFails => cases ha
    | exits =>
      cases ha
      rfl
  · rw [activateWithin_of_full hfits] at ha
    cases ha

namespace Setting

/-- A tag whose guard fails ends its row. -/
theorem node_of_guard_error {error : RenderError} (hname : s.registry.get? e.tag.name = some h)
    (hturn : turn h.branch chain = .run) (hfits : e.Fits s.limits st)
    (hguard : h.Answers e st.scope (.error error)) :
    s.node e.node chain out st = .ends ⟨out, .error error, st.asked e (.error error)⟩ := by
  have ha : h.Activates e (s.around e) (st.inside e) _ := .guardFails (hguard.runHook _)
  have hwithin : h.activateWithin e (s.around e) st =
      ⟨"", .error error, st.asked e (.error error)⟩ := by
    rw [Handler.activateWithin_of_fits hfits, ha.eq, Activation.leaving,
      RenderState.outside_inside]
  rw [node_tag]
  exact (Visits.fails hname hturn hwithin).eq

/-- After a tag whose guard declines the row goes on. -/
theorem node_of_guard_false (hname : s.registry.get? e.tag.name = some h)
    (hturn : turn h.branch chain = .run) (hfits : e.Fits s.limits st)
    (hguard : h.Answers e st.scope (.ok false)) :
    s.node e.node chain out st =
      .goesOn (chainAfter h.branch false) out (st.asked e (.ok false)) := by
  have ha : h.Activates e (s.around e) (st.inside e) _ := .guardDeclines (hguard.runHook _)
  have hwithin : h.activateWithin e (s.around e) st =
      ⟨"", .ok (.proceed, false), st.asked e (.ok false)⟩ := by
    rw [Handler.activateWithin_of_fits hfits, ha.eq, Activation.leaving,
      RenderState.outside_inside]
  have hstep : s.visit e (s.around e).region chain out st = _ :=
    (Visits.proceeds hname hturn hwithin).eq
  rw [String.append_empty] at hstep
  rw [node_tag]
  exact hstep

/-- After a tag whose guard lets it run the row goes on with that chain, if it does. -/
theorem withChain_node_of_guard_true (hname : s.registry.get? e.tag.name = some h)
    (hturn : turn h.branch chain = .run) (hguard : h.Answers e st.scope (.ok true))
    (out : String) :
    (s.node e.node chain out st).withChain (chainAfter h.branch true) =
      s.node e.node chain out st := by
  rw [node_tag]
  -- The row goes on in two ways: passed over, which is not its turn, or after an activation.
  have hvisits := s.visits_visit e (s.around e).region chain out st
  change s.Visits e _ chain out st (s.visit e (fun region => pass (s.walk (e.row region))) chain
    out st) at hvisits
  generalize s.visit e (fun region => pass (s.walk (e.row region))) chain out st = step at hvisits ⊢
  cases hvisits with
  | unknown => rfl
  | misplaced => rfl
  | passedOver hname' hturn' =>
    rw [hname] at hname'
    cases hname'
    rw [hturn] at hturn'
    cases hturn'
  | fails => rfl
  | proceeds hname' hturn' ha =>
    rw [hname] at hname'
    cases hname'
    have hran := hguard.ran (congrArg Activation.outcome ha)
    rw [hran]
    rfl
  | breaksOff => rfl

end Setting

/-! ## The setting of an engine -/

namespace Engine

/-- The setting in which the engine renders a template: at most `budget` includes may still be
opened, one within the other. -/
def settingAt (engine : Engine) (budget : Nat) : Setting :=
  ⟨engine.registry, engine.limits, engine.embed budget⟩

theorem settingAt_tidy {engine : Engine} (hbuiltin : engine.registry = Builtin.registry)
    (budget : Nat) : (engine.settingAt budget).Tidy where
  walk_restores := Setting.walk_restores (engine.embed_restores budget)
  walk_unwatched nodes := by
    have hplaces := builtin_ignoresPlaces hbuiltin
    exact (Setting.walk_relocate (alikeElsewhere_of_embed hplaces (embed_alike hplaces budget))
      nodes).left
  embed_restores := engine.embed_restores budget
  embed_unwatched := embed_alike (builtin_ignoresPlaces hbuiltin) budget

end Engine

end TagTemplate
