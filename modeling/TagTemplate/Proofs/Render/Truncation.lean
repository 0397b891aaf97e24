import TagTemplate.Proofs.Render.Rows
import TagTemplate.Proofs.Render.Coupling
import TagTemplate.Proofs.Render.Induction
import TagTemplate.Proofs.Render.Yields
import TagTemplate.Proofs.Tree.Aborts

/-!
# A render and the same render without aborts

A template is rendered once as it is and once without its aborts. Up to the first abort the two
renders are one. From there on the first one only hands on, from the inside out, what has been put
out so far, while the second one goes on; and nothing that either of them has put out is ever taken
back. So what the first render comes to is what the second one comes to, or it is cut off
(`CutOf`). This is said of programs, of hooks, of activations and of walks, one after the other, up
to `Setting.Truncates.walk`.
-/

namespace TagTemplate

/-! ## Cut off results -/

/-- Both results are the same, or the first one breaks off in an abort, with an output that the
second one begins with. Nothing is said where either of them is an error. -/
structure CutOf {ρ : Type} (ending : ρ → Option (String × Flow)) (cut whole : ρ) : Prop where
  same : ∀ {text flow}, ending cut = some (text, flow) → flow ≠ .abort → whole = cut
  begins : ∀ {text text' flow}, ending cut = some (text, .abort) →
    ending whole = some (text', flow) → text.toList <+: text'.toList

namespace CutOf

variable {ρ σ : Type} {ending : ρ → Option (String × Flow)} {cut whole : ρ}

theorem refl (result : ρ) : CutOf ending result result where
  same _ _ := rfl
  begins h h' := by
    rw [h] at h'
    cases h'
    exact List.prefix_rfl

theorem of_none (h : ending cut = none) : CutOf ending cut whole where
  same hsome := by rw [h] at hsome; cases hsome
  begins hsome := by rw [h] at hsome; cases hsome

/-- An abort, and what begins with its output. -/
theorem of_abort {text : String} (h : ending cut = some (text, .abort))
    (hbegins : ∀ {text' flow}, ending whole = some (text', flow) →
      text.toList <+: text'.toList) : CutOf ending cut whole where
  same hsome hflow := by
    rw [h] at hsome
    cases hsome
    exact absurd rfl hflow
  begins hsome hwhole := by
    rw [h] at hsome
    cases hsome
    exact hbegins hwhole

/-- What is done to both results and leaves their endings as they are, but for some output put
before. -/
theorem mapAfter (h : CutOf ending cut whole) (before : String)
    (ending' : σ → Option (String × Flow)) (f : ρ → σ)
    (hf : ∀ result, ending' (f result) =
      (ending result).map fun answer => (before ++ answer.1, answer.2)) :
    CutOf ending' (f cut) (f whole) where
  same hsome hflow := by
    rw [hf] at hsome
    obtain ⟨⟨text, flow⟩, hcut, hpair⟩ := Option.map_eq_some_iff.mp hsome
    cases hpair
    rw [h.same hcut hflow]
  begins hsome hsome' := by
    rw [hf] at hsome hsome'
    obtain ⟨⟨text, flow⟩, hcut, hpair⟩ := Option.map_eq_some_iff.mp hsome
    obtain ⟨⟨text', flow'⟩, hwhole, hpair'⟩ := Option.map_eq_some_iff.mp hsome'
    cases hpair
    cases hpair'
    rw [String.toList_append, String.toList_append]
    exact (List.prefix_append_right_inj _).mpr (h.begins hcut hwhole)

/-- What is done to both results and leaves their endings as they are. -/
theorem map (h : CutOf ending cut whole) (ending' : σ → Option (String × Flow)) (f : ρ → σ)
    (hf : ∀ result, ending' (f result) = ending result) : CutOf ending' (f cut) (f whole) := by
  refine h.mapAfter "" ending' f fun result => ?_
  rw [hf]
  cases ending result with
  | none => rfl
  | some answer => rw [Option.map_some, String.empty_append]

end CutOf

theorem toOption_eq_some {ε α : Type} {result : Except ε α} {a : α} :
    result.toOption = some a ↔ result = .ok a := by
  cases result with
  | error e => constructor <;> nofun
  | ok b => exact ⟨fun h => congrArg _ (Option.some.inj h), fun h => congrArg _ (Except.ok.inj h)⟩

/-- The text and the flow of what was rendered without an error. -/
def Rendered.ending? (rendered : Rendered) : Option (String × Flow) :=
  rendered.outcome.toOption.map fun flow => (rendered.text, flow)

def Activation.ending? (a : Activation) : Option (String × Flow) :=
  a.outcome.toOption.map fun answer => (a.text, answer.1)

def Walk.ending? (w : Walk) : Option (String × Flow) :=
  w.outcome.toOption.map fun flow => (w.out, flow)

theorem Walk.out_of_ending {w : Walk} {text : String} {flow : Flow}
    (h : w.ending? = some (text, flow)) : w.out = text := by
  obtain ⟨_, _, hpair⟩ := Option.map_eq_some_iff.mp h
  exact congrArg Prod.fst hpair

/-- A step that goes on proceeds with what has been put out so far. -/
def Step.ending? : Step → Option (String × Flow)
  | .goesOn _ out _ => some (out, .proceed)
  | .ends w => w.ending?

/-- What is rendered first is what is rendered second, or it is cut off. -/
def Render.Truncates (render render' : Render) : Prop :=
  ∀ st, CutOf (·.1.ending?) (render st) (render' st)

/-- The same of walks. -/
def Walker.Truncates (walk walk' : Walker) : Prop :=
  ∀ chain out st, CutOf Walk.ending? (walk chain out st) (walk' chain out st)

/-! ## Programs -/

/-- The first program goes through the second one as long as nothing that it has rendered aborts,
and from there on it ends in an abort, while the second one puts out no less. The regions that the
two have rendered are related. -/
inductive Program.Truncates (same : Region → Region → Prop) :
    Program (String × Flow) → Program (String × Flow) → Prop
  | done (result : String × Flow) : Truncates same (.done result) (.done result)
  | fail (error : RenderError) (program : Program (String × Flow)) :
    Truncates same (.fail error) program
  | look {next next' : View → Program (String × Flow)}
    (h : ∀ view, Truncates same (next view) (next' view)) :
    Truncates same (.look next) (.look next')
  | update (change : Scope → Scope) {next next' : Program (String × Flow)}
    (h : Truncates same next next') : Truncates same (.update change next) (.update change next')
  | render {region region' : Region} (hregion : same region region')
    {next next' : Rendered → Program (String × Flow)} (herror : PassesErrorsOn next)
    (herror' : PassesErrorsOn next')
    (h : ∀ text flow, flow ≠ .abort → Truncates same (next ⟨text, .ok flow⟩) (next' ⟨text, .ok flow⟩))
    (habort : ∀ text text' flow, text.toList <+: text'.toList →
      ∃ out, next ⟨text, .ok .abort⟩ = .done (out, .abort) ∧
        (next' ⟨text', .ok flow⟩).Yields (fun _ => True) (out.toList <+: ·.1.toList)) :
    Truncates same (.render region next) (.render region' next')
  | embed (path : String) {next next' : Rendered → Program (String × Flow)}
    (herror : PassesErrorsOn next)
    (h : ∀ text flow, Truncates same (next ⟨text, .ok flow⟩) (next' ⟨text, .ok flow⟩)) :
    Truncates same (.embed path next) (.embed path next')

/-- Surroundings under the same limits in which the same is included, and in which what is rendered
first, of regions that are related, is what is rendered second, or it is cut off. -/
structure Surroundings.Truncates (same : Region → Region → Prop) (s s' : Surroundings) : Prop where
  limits : s'.limits = s.limits
  region : ∀ {region region'}, same region region' →
    Render.Truncates (s.region region) (s'.region region')
  embed : s'.embed = s.embed

variable {same : Region → Region → Prop} {s s' : Surroundings}

/-- The runs of the two programs. -/
theorem Program.Truncates.run (hs : s.Truncates same s') {p p' : Program (String × Flow)}
    (h : Program.Truncates same p p') (st : RenderState) :
    CutOf (·.1.toOption) (p.run s st) (p'.run s' st) := by
  induction h generalizing st with
  | done result => exact .refl _
  | fail error program => exact .of_none rfl
  | look _ ih =>
    have hview : st.view s'.limits = st.view s.limits := by rw [hs.limits]
    rw [Program.run, Program.run, hview]
    exact ih _ st
  | update change _ ih => exact ih _
  | @render region region' hregion next next' herror herror' h habort ih =>
    have hcut := hs.region hregion st
    rw [run_render, run_render]
    rcases hrendered : s.region region st with ⟨⟨text, e | flow⟩, st₁⟩
    · -- an error in what was rendered is an error of the first program
      obtain ⟨error, hfail⟩ := herror text e
      rw [hfail]
      exact .of_none rfl
    rw [hrendered] at hcut
    by_cases hflow : flow = .abort
    · subst hflow
      rcases hrendered' : s'.region region' st with ⟨⟨text', e' | flow'⟩, st₁'⟩
      · obtain ⟨error, hfail⟩ := herror' text' e'
        obtain ⟨out, hdone, -⟩ := habort text text .proceed List.prefix_rfl
        rw [hfail, hdone]
        exact .of_abort rfl nofun
      · rw [hrendered'] at hcut
        obtain ⟨out, hdone, hyields⟩ := habort text text' flow' (hcut.begins rfl rfl)
        rw [hdone]
        exact .of_abort rfl fun hwhole =>
          hyields.of_run (Surroundings.answers_anything _) (Program.asks_anything _)
            (toOption_eq_some.mp hwhole)
    · rw [hcut.same rfl hflow]
      exact ih text flow hflow st₁
  | embed path herror _ ih =>
    rw [run_embed, run_embed, hs.embed]
    rcases hrendered : s.embed path st with ⟨⟨text, e | flow⟩, st₁⟩
    · obtain ⟨error, hfail⟩ := herror text e
      rw [hfail]
      exact .of_none rfl
    · exact ih text flow st₁

/-- A program that has nothing rendered runs alike in all surroundings under the same limits. -/
theorem Program.run_of_asksNothing {α : Type} (hlimits : s'.limits = s.limits) {p : Program α}
    (h : p.Asks fun _ => False) (st : RenderState) : p.run s' st = p.run s st := by
  induction p generalizing st with
  | done result => rfl
  | fail error => rfl
  | look next ih =>
    rw [Program.run, Program.run, hlimits]
    exact ih _ (h _) st
  | update change next ih => exact ih h _
  | render region next => exact h.1.elim
  | embed path next => exact h.1.elim

theorem Program.runHook_of_asksNothing {α : Type} (hlimits : s'.limits = s.limits)
    {p : Program α} (h : p.Asks fun _ => False) (hook : Hook) (tag : Tag)
    (result : Except RenderError α → HookResult) (st : RenderState) :
    p.runHook s' hook tag result st = p.runHook s hook tag result st := by
  rw [Program.runHook, Program.runHook, run_of_asksNothing hlimits h]

/-- A hook that makes the output of a tag. -/
theorem Program.Truncates.runHook (hs : s.Truncates same s') {p p' : Program (String × Flow)}
    (h : Program.Truncates same p p') (hook : Hook) (tag : Tag)
    (result : Except RenderError (String × Flow) → HookResult) (st : RenderState) :
    CutOf (·.1.toOption) (p.runHook s hook tag result st) (p'.runHook s' hook tag result st) :=
  (h.run hs _).map _ (fun answer => (answer.1, answer.2.note (.hookEnds tag (result answer.1))))
    fun _ => rfl

/-! ## Activations -/

/-- The tag with the aborts in its body taken out. -/
def Element.withoutAborts (e : Element) : Element := ⟨e.tag, e.body.map withoutAbortsAll⟩

/-- The body of a tag is related to itself, and the body of each child that is kept to the body of
that child. -/
def SameRegion (nodes : List Node) : Region → Region → Prop
  | .body, .body => True
  | .bodyOfChild place, .bodyOfChild place' => KeptAt nodes place place'
  | _, _ => False

/-- A handler that does not depend on the aborts in the body of its tag, has nothing rendered but in
its body, ends its body where something in it aborts, and never takes back any output. -/
structure Handler.Truncates (h : Handler) : Prop where
  asks : ∀ e, h.Asks e (fun _ => False) fun _ => True
  hooks : ∀ e : Element, h.guard e.withoutAborts = h.guard e ∧
    h.enter e.withoutAborts = h.enter e ∧ h.exit e.withoutAborts = h.exit e
  body : ∀ e : Element,
    Program.Truncates (SameRegion e.children) (h.body e) (h.body e.withoutAborts)
  adds : ∀ e text, (h.exit e text).Yields (fun _ => True) (text.toList <+: ·.toList)

namespace Handler.Truncates

variable {h : Handler} {e : Element}

/-- The activations of a tag as it is and without the aborts in it. Up to its body both go through
the same hooks. -/
theorem activate (hh : h.Truncates) (hs : s.Truncates (SameRegion e.children) s')
    (st : RenderState) :
    CutOf Activation.ending? (h.activate e s st) (h.activate e.withoutAborts s' st) := by
  obtain ⟨hguard', henter', hexit'⟩ := hh.hooks e
  have hguards : ∀ st, (h.guard e.withoutAborts).runHook s' .guard e.tag .guard st =
      (h.guard e).runHook s .guard e.tag .guard st := by
    intro st
    rw [hguard']
    exact Program.runHook_of_asksNothing hs.limits (hh.asks e).guard ..
  have henters : ∀ st, (h.enter e.withoutAborts).runHook s' .enter e.tag .enter st =
      (h.enter e).runHook s .enter e.tag .enter st := by
    intro st
    rw [henter']
    exact Program.runHook_of_asksNothing hs.limits (hh.asks e).enter ..
  have hexits : ∀ text st, (h.exit e.withoutAborts text).runHook s' .exit e.tag (.exit text) st =
      (h.exit e text).runHook s .exit e.tag (.exit text) st := by
    intro text st
    rw [hexit']
    exact Program.runHook_of_asksNothing hs.limits ((hh.asks e).exit text) ..
  have hbodies := fun st => (hh.body e).runHook hs .body e.tag .body st
  have ha := h.activates_activate e s st
  generalize h.activate e s st = a at ha ⊢
  cases ha with
  | guardFails => exact .of_none rfl
  | guardDeclines hguard =>
    have hsame : h.Activates e.withoutAborts s' st _ := .guardDeclines ((hguards _).trans hguard)
    rw [hsame.eq]
    exact .refl _
  | enterFails => exact .of_none rfl
  | bodyFails => exact .of_none rfl
  | exitFails => exact .of_none rfl
  | @exits text output st₁ st₂ st₃ st₄ hguard henter hbody hexit =>
    have hcut := hbodies (h.inBody st₂)
    rw [hbody] at hcut
    have hsame : h.Activates e.withoutAborts s' st _ :=
      .exits ((hguards _).trans hguard) ((henters _).trans henter) (hcut.same rfl (by decide))
        ((hexits _ _).trans hexit)
    rw [hsame.eq]
    exact .refl _
  | @bodyEnds text flow st₁ st₂ st₃ hflow hguard henter hbody =>
    have hcut := hbodies (h.inBody st₂)
    rw [hbody] at hcut
    by_cases habort : flow = .abort
    · subst habort
      refine .of_abort rfl fun hwhole => ?_
      -- the body of the second activation puts out no less, and its exit takes nothing back
      have ha' := h.activates_activate e.withoutAborts s' st
      generalize h.activate e.withoutAborts s' st = a' at ha' hwhole
      cases ha' with
      | guardFails => cases hwhole
      | guardDeclines hguard' => cases hguard'.symm.trans ((hguards _).trans hguard)
      | enterFails => cases hwhole
      | bodyFails => cases hwhole
      | exitFails => cases hwhole
      | bodyEnds _ hguard' henter' hbody' =>
        cases hguard'.symm.trans ((hguards _).trans hguard)
        cases henter'.symm.trans ((henters _).trans henter)
        cases hwhole
        exact hcut.begins rfl (congrArg (·.1.toOption) hbody')
      | exits hguard' henter' hbody' hexit' =>
        cases hguard'.symm.trans ((hguards _).trans hguard)
        cases henter'.symm.trans ((henters _).trans henter)
        cases hwhole
        have hbegins := hcut.begins rfl (congrArg (·.1.toOption) hbody')
        exact hbegins.trans ((hh.adds e.withoutAborts _).of_runHook (Surroundings.answers_anything _)
          (Program.asks_anything _) hexit')
    · have hsame : h.Activates e.withoutAborts s' st _ :=
        .bodyEnds hflow ((hguards _).trans hguard) ((henters _).trans henter)
          (hcut.same rfl habort)
      rw [hsame.eq]
      exact .refl _

/-- A block is refused by the limit in both renders or in none. -/
theorem activateWithin (hh : h.Truncates) (hs : s.Truncates (SameRegion e.children) s')
    (st : RenderState) :
    CutOf Activation.ending? (h.activateWithin e s st) (h.activateWithin e.withoutAborts s' st) := by
  unfold Handler.activateWithin
  rcases e with ⟨tag, _ | children⟩
  · exact hh.activate hs st
  · simp only [Element.withoutAborts, Option.map_some, hs.limits]
    split
    · exact .of_none rfl
    · have hcut := hh.activate hs { st with depth := st.depth + 1 }
      exact hcut.map Activation.ending?
        (fun a => { a with state := { a.state with depth := a.state.depth - 1 } }) fun _ => rfl

end Handler.Truncates

/-! ## Walking a tree -/

/-- The walk only adds to its buffer. -/
def Walker.Adds (walk : Walker) : Prop :=
  ∀ chain out st, out.toList <+: (walk chain out st).out.toList

theorem Setting.walk_adds (s : Setting) (nodes : List Node) : (s.walk nodes).Adds := by
  intro chain out st
  have hafter := s.walk_after nodes chain out "" st
  rw [String.append_empty] at hafter
  rw [hafter, Walk.after, String.toList_append]
  exact List.prefix_append _ _

theorem Walker.Truncates.pass {walk walk' : Walker} (h : walk.Truncates walk') :
    Render.Truncates (Setting.pass walk) (Setting.pass walk') :=
  fun st => (h none "" (st.note .passBegins)).map
    (fun answer : Rendered × RenderState => answer.1.ending?)
    (fun w => (⟨w.out, w.outcome⟩, w.state.note (.passEnds w.outcome))) fun _ => rfl

theorem Walker.Truncates.refl (walk : Walker) : walk.Truncates walk := fun _ _ _ => .refl _

/-- What follows a step goes on in the second walk where the first one is cut off. -/
theorem CutOf.andThen {step step' : Step} (h : CutOf Step.ending? step step')
    {rest rest' : Walker} (hrest : rest.Truncates rest') (hadds : rest'.Adds) :
    CutOf Walk.ending? (step.andThen rest) (step'.andThen rest') := by
  cases step with
  | goesOn chain out st =>
    rw [h.same rfl (by decide)]
    exact hrest chain out st
  | ends w =>
    cases hending : w.ending? with
    | none => exact .of_none hending
    | some result =>
      obtain ⟨text, flow⟩ := result
      by_cases habort : flow = .abort
      · subst habort
        refine .of_abort hending fun hwhole => ?_
        cases step' with
        | goesOn chain out st =>
          -- what the second step has put out stays where it is
          have hstep : text.toList <+: out.toList := h.begins hending rfl
          rw [← Walk.out_of_ending hwhole]
          exact hstep.trans (hadds chain out st)
        | ends w' => exact h.begins hending hwhole
      · rw [h.same hending habort]
        exact .refl _

namespace Setting

/-- What a setting needs for its renders to be cut off and nothing else: the handler of aborts
aborts or fails whenever it comes to its turn, and every other handler ends where something in its
body aborts. -/
structure Truncates (s : Setting) : Prop where
  abort : ∀ h, s.registry.get? abortName = some h → h.branch = none ∧
    ∀ e surroundings st text flow,
      (h.activate e surroundings st).ending? = some (text, flow) → text = "" ∧ flow = .abort
  others : ∀ name h, s.registry.get? name = some h → name ≠ abortName → h.Truncates

variable {s : Setting}

/-- An abort ends its row, with what has been put out so far. -/
theorem Truncates.ending_of_abort (hs : s.Truncates) {e : Element} (he : e.tag.name = abortName)
    (region : Region → Render) (chain : Chain) (out : String) (st : RenderState) :
    ∃ w, s.visit e region chain out st = .ends w ∧
      ∀ text flow, w.ending? = some (text, flow) → text = out ∧ flow = .abort := by
  have hwithin : ∀ {h : Handler}, s.registry.get? e.tag.name = some h →
      ∀ {surroundings text flow}, (h.activateWithin e surroundings st).ending? = some (text, flow) →
        text = "" ∧ flow = .abort := by
    intro h hname surroundings text flow hending
    rw [he] at hname
    by_cases hfits : e.Fits surroundings.limits st
    · rw [Handler.activateWithin_of_fits hfits] at hending
      exact (hs.abort h hname).2 _ _ (st.inside e) _ _ hending
    · rw [Handler.activateWithin_of_full hfits] at hending
      cases hending
  have hvisits := s.visits_visit e region chain out st
  generalize s.visit e region chain out st = step at hvisits
  cases hvisits with
  | unknown => exact ⟨_, rfl, nofun⟩
  | misplaced => exact ⟨_, rfl, nofun⟩
  | @passedOver h after hname hturn =>
    rw [he] at hname
    rw [(hs.abort h hname).1] at hturn
    cases hturn
  | fails => exact ⟨_, rfl, nofun⟩
  | proceeds hname hturn ha =>
    obtain ⟨-, hflow⟩ := hwithin hname (by rw [ha]; rfl)
    cases hflow
  | breaksOff hflow hname hturn ha =>
    obtain ⟨rfl, rfl⟩ := hwithin hname (by rw [ha]; rfl)
    refine ⟨_, rfl, fun text flow h => ?_⟩
    cases h
    exact ⟨String.append_empty, rfl⟩

theorem ending_step (a : Activation) (branch : Option Branch) (out : String) :
    (a.step branch out).ending? = a.ending?.map fun answer => (out ++ answer.1, answer.2) := by
  rcases a with ⟨text, error | ⟨flow, ran⟩, st⟩
  · rfl
  · cases flow <;> rfl

/-- The visits of a tag that is no abort, as it is and without the aborts in it. -/
theorem Truncates.visit (hs : s.Truncates) {e : Element} (he : e.tag.name ≠ abortName)
    {region region' : Region → Render} (hregion : ∀ {r r'}, SameRegion e.children r r' →
      Render.Truncates (region r) (region' r')) (chain : Chain) (out : String) (st : RenderState) :
    CutOf Step.ending? (s.visit e region chain out st)
      (s.visit e.withoutAborts region' chain out st) := by
  have htag : e.withoutAborts.tag = e.tag := rfl
  unfold Setting.visit
  rw [htag]
  cases hname : s.registry.get? e.tag.name with
  | none => exact .of_none rfl
  | some h =>
    simp only
    cases turn h.branch chain with
    | refuse => exact .of_none rfl
    | passOver after => exact .refl _
    | run =>
      have hsurroundings : Surroundings.Truncates (SameRegion e.children)
          ⟨s.limits, region, s.embed⟩ ⟨s.limits, region', s.embed⟩ := ⟨rfl, hregion, rfl⟩
      have hcut := (hs.others _ h hname he).activateWithin hsurroundings st
      exact hcut.mapAfter out Step.ending? (Activation.step · h.branch out) fun a =>
        ending_step a h.branch out

/-- In a row that is cut off at an abort, the siblings after it only add to the output. -/
theorem Truncates.walk_of_abort (hs : s.Truncates) {e : Element} (he : e.tag.name = abortName)
    (region : Region → Render) (rest : Walker) {rest' : Walker} (hadds : rest'.Adds)
    (chain : Chain) (out : String) (st : RenderState) :
    CutOf Walk.ending? ((s.visit e region chain out st).andThen rest) (rest' chain out st) := by
  obtain ⟨w, hvisit, hw⟩ := hs.ending_of_abort he region chain out st
  rw [hvisit]
  show CutOf Walk.ending? w _
  cases hending : w.ending? with
  | none => exact .of_none hending
  | some answer =>
    obtain ⟨rfl, hflow⟩ := hw answer.1 answer.2 hending
    have habort : w.ending? = some (answer.1, .abort) := by rw [hending, ← hflow]
    refine .of_abort habort fun hwhole => ?_
    rw [← Walk.out_of_ending hwhole]
    exact hadds chain answer.1 st

/-- The regions of a tag and those of the tag without the aborts in it. -/
theorem regions_truncates {children : List Node}
    (hbody : (s.walk children).Truncates (s.walk (withoutAbortsAll children)))
    (hbodies : ∀ node ∈ children, (s.bodyWalk node).Truncates (s.bodyWalk node.withoutAborts))
    {region region' : Region} (hsame : SameRegion children region region') :
    Render.Truncates (regions (s.walk children) (s.bodies children) region)
      (regions (s.walk (withoutAbortsAll children)) (s.bodies (withoutAbortsAll children))
        region') := by
  cases region with
  | body =>
    cases region' with
    | body => exact hbody.pass
    | bodyOfChild place => exact hsame.elim
  | bodyOfChild place =>
    cases region' with
    | body => exact hsame.elim
    | bodyOfChild place' =>
      obtain ⟨node, hnode, hplace, hplace'⟩ := KeptAt.getElem? hsame
      rw [bodies_eq_map, bodies_eq_map, regions, regions, List.getElem?_map, List.getElem?_map,
        hplace, hplace']
      exact (hbodies node hnode).pass

/-- A tag without children has nothing rendered that could be cut off. -/
theorem regions_of_void {region region' : Region} (hsame : SameRegion [] region region') :
    Render.Truncates (regions emptyWalk [] region) (regions emptyWalk [] region') := by
  cases region with
  | body =>
    cases region' with
    | body => exact (Walker.Truncates.refl _).pass
    | bodyOfChild place => exact hsame.elim
  | bodyOfChild place =>
    cases region' with
    | body => exact hsame.elim
    | bodyOfChild place' => exact (Walker.Truncates.refl _).pass

mutual

/-- A node that is no abort. -/
theorem Truncates.node (hs : s.Truncates) : (node : Node) → node.isAbort = false →
    ∀ chain out st, CutOf Step.ending? (s.node node chain out st)
      (s.node node.withoutAborts chain out st)
  | .text t, _, chain, out, st => .refl _
  | .interpolation expression span, _, chain, out, st => .refl _
  | .void tag, hkept, chain, out, st => by
    have htag : tag.name ≠ abortName := by simpa [Node.isAbort, Node.tag?] using hkept
    exact @Truncates.visit s hs ⟨tag, none⟩ htag _ _ regions_of_void chain out st
  | .block tag children, hkept, chain, out, st => by
    have htag : tag.name ≠ abortName := by simpa [Node.isAbort, Node.tag?] using hkept
    have hregions := @regions_truncates s children (walk hs children) (bodies hs children)
    exact @Truncates.visit s hs ⟨tag, some children⟩ htag _ _ hregions chain out st

/-- The walk over some siblings. -/
theorem Truncates.walk (hs : s.Truncates) : (nodes : List Node) →
    (s.walk nodes).Truncates (s.walk (withoutAbortsAll nodes))
  | [], _, _, _ => .refl _
  | first :: rest, chain, out, st => by
    have hrest := walk hs rest
    cases hkept : first.isAbort with
    | false =>
      rw [withoutAbortsAll, if_neg (by simp [hkept]), Setting.walk, Setting.walk]
      exact (node hs first hkept chain out st).andThen hrest (s.walk_adds _)
    | true =>
      -- the walk ends here, and the other one goes on with the siblings after it
      rw [withoutAbortsAll, if_pos hkept, Setting.walk]
      cases first with
      | text t => cases hkept
      | interpolation expression span => cases hkept
      | void tag =>
        have htag : tag.name = abortName := by simpa [Node.isAbort, Node.tag?] using hkept
        exact hs.walk_of_abort htag _ _ (s.walk_adds _) chain out st
      | block tag children =>
        have htag : tag.name = abortName := by simpa [Node.isAbort, Node.tag?] using hkept
        exact hs.walk_of_abort htag _ _ (s.walk_adds _) chain out st

/-- The walk over the children of a node. -/
theorem Truncates.bodyWalk (hs : s.Truncates) : (node : Node) →
    (s.bodyWalk node).Truncates (s.bodyWalk node.withoutAborts)
  | .block _ children => walk hs children
  | .text _ => .refl _
  | .interpolation _ _ => .refl _
  | .void _ => .refl _

/-- The walks over the children of each of some siblings. -/
theorem Truncates.bodies (hs : s.Truncates) : (nodes : List Node) → ∀ node ∈ nodes,
    (s.bodyWalk node).Truncates (s.bodyWalk node.withoutAborts)
  | [] => nofun
  | first :: rest => List.forall_mem_cons.mpr ⟨bodyWalk hs first, bodies hs rest⟩

end

end Setting

end TagTemplate
