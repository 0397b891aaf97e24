import TagTemplate.Proofs.Render.Failures
import TagTemplate.Proofs.Render.Protocol

/-!
# Keeping to the protocol

A hook passes errors on if it fails with each error in what it has rendered, and has nothing more
rendered then. Where all hooks do, whatever else they do, each render adds to the journal what the
protocol of hooks allows. This is said of programs, of hooks, of activations, and by induction
on the tree of whole walks (`walk_follows`).
-/

namespace TagTemplate

variable {α : Type} {r : Registry} {named : List Node → Prop}

/-! ## Hooks that pass errors on -/

namespace Program

/-- The program fails with an error and has nothing more rendered. -/
def FailsWith (error : RenderError) : Program α → Prop
  | .done _ => False
  | .fail e => e = error
  | .look next => ∀ view, (next view).FailsWith error
  | .update _ next => next.FailsWith error
  | .render _ _ => False
  | .embed _ _ => False

/-- An error in what the program has rendered is its own. -/
def PassesOn : Program α → Prop
  | .done _ => True
  | .fail _ => True
  | .look next => ∀ view, (next view).PassesOn
  | .update _ next => next.PassesOn
  | .render _ next => (∀ text e, (next ⟨text, .error e⟩).FailsWith e) ∧
    ∀ text flow, (next ⟨text, .ok flow⟩).PassesOn
  | .embed _ next => (∀ text e, (next ⟨text, .error e⟩).FailsWith e) ∧
    ∀ text flow, (next ⟨text, .ok flow⟩).PassesOn

/-- Programs that raise only errors of some kind by themselves pass on the others. -/
theorem Raises.passesOn {kind : RenderError → Prop} {p : Program α} (hp : p.Raises kind) :
    p.PassesOn := by
  -- the program is the error itself there, so nothing more is rendered
  have hfails : ∀ {next : Rendered → Program α}, (∀ text e, next ⟨text, .error e⟩ = .fail e) →
      ∀ text e, (next ⟨text, .error e⟩).FailsWith e := by
    intro next hnext text e
    rw [hnext]
    rfl
  induction p with
  | done result => trivial
  | fail error => trivial
  | look next ih => exact fun view => ih view (hp view)
  | update change next ih => exact ih hp
  | render region next ih => exact ⟨hfails hp.1, fun text flow => ih _ (hp.2 text flow)⟩
  | embed path next ih => exact ⟨hfails hp.1, fun text flow => ih _ (hp.2 text flow)⟩

end Program

/-- All hooks of the handler pass errors on. -/
structure Handler.PassesOn (h : Handler) : Prop where
  guard : ∀ e, (h.guard e).PassesOn
  enter : ∀ e, (h.enter e).PassesOn
  body : ∀ e, (h.body e).PassesOn
  exit : ∀ e text, (h.exit e text).PassesOn

/-- All handlers do. -/
def Registry.PassesOn (r : Registry) : Prop := ∀ name h, r.get? name = some h → h.PassesOn

/-- Handlers that raise only errors of some kind by themselves pass on the others. -/
theorem Handler.Raises.passesOn {kind : RenderError → Prop} {h : Handler} (hh : h.Raises kind) :
    h.PassesOn where
  guard e := (hh.guard e).passesOn
  enter e := (hh.enter e).passesOn
  body e := (hh.body e).passesOn
  exit e text := (hh.exit e text).passesOn

theorem Registry.Raises.passesOn {kind : RenderError → Prop} (hr : r.Raises kind) : r.PassesOn :=
  fun name h hget => (hr name h hget).passesOn

/-! ## What is added to a journal -/

namespace RenderState

variable {st st₁ st₂ : RenderState}

/-- The journal, if there is one, goes on with some events. -/
def Adds (st after : RenderState) (events : List Event) : Prop :=
  after.journal = st.journal.map (events.reverse ++ ·)

theorem adds_nil (st : RenderState) : st.Adds st [] := Option.map_id'.symm

theorem adds_note (st : RenderState) (event : Event) : st.Adds (st.note event) [event] :=
  st.journal_note event

theorem Adds.trans {first later : List Event} (hfirst : st.Adds st₁ first)
    (hlater : st₁.Adds st₂ later) : st.Adds st₂ (first ++ later) := by
  unfold Adds at *
  rw [hlater, hfirst, Option.map_map]
  congr 1
  funext journal
  rw [Function.comp_apply, List.reverse_append, List.append_assoc]

/-- Opening and closing a block adds nothing. -/
theorem Adds.outside {e : Element} {events : List Event} (h : (st.inside e).Adds st₁ events) :
    st.Adds (st₁.outside e) events := by
  rw [Adds, journal_outside]
  exact h

/-- A journal that was empty before is made of what was added. -/
theorem Adds.journal_eq {events : List Event} (h : st.Adds st₁ events)
    (hempty : st.journal = some []) : st₁.journal = some events.reverse := by
  rw [h, hempty, Option.map_some, List.append_nil]

/-- What is added between two notes is added with them. -/
theorem Adds.enclose {opening closing : Event} {events : List Event}
    (h : (st.note opening).Adds st₁ events) :
    st.Adds (st₁.note closing) (opening :: (events ++ [closing])) :=
  (st.adds_note opening).trans (h.trans (st₁.adds_note closing))

end RenderState

/-- What is rendered adds to the journal what the protocol allows for a pass of a tag. -/
def Render.Follows (r : Registry) (named : List Node → Prop) (e : Element) (render : Render) :
    Prop :=
  ∀ st : RenderState, ∃ events, st.Adds (render st).2 events ∧
    Protocol r named (.pass e (render st).1.outcome) events

/-- All that is rendered in some surroundings does so. -/
structure Surroundings.Follows (r : Registry) (named : List Node → Prop) (e : Element)
    (s : Surroundings) : Prop where
  region : ∀ region, Render.Follows r named e (s.region region)
  embed : ∀ path, Render.Follows r named e (s.embed path)

variable {s : Surroundings} {e : Element}

theorem Program.FailsWith.run {error : RenderError} {p : Program α} (hp : p.FailsWith error)
    (st : RenderState) : (p.run s st).1 = .error error ∧ st.Adds (p.run s st).2 [] := by
  induction p generalizing st with
  | done result => exact hp.elim
  | fail e => exact ⟨congrArg Except.error hp, st.adds_nil⟩
  | look next ih => exact ih _ (hp _) st
  | update change next ih => exact ih hp { st with scope := change st.scope }
  | render region next ih => exact hp.elim
  | embed path next ih => exact hp.elim

/-- A program adds what it has rendered, and the last of it if that fails. -/
theorem Program.PassesOn.run (hs : s.Follows r named e) {p : Program α} (hp : p.PassesOn)
    (st : RenderState) : ∃ events error, st.Adds (p.run s st).2 events ∧
      Protocol r named (.passes e error) events ∧
      ∀ e', error = some e' → (p.run s st).1 = .error e' := by
  -- after a pass that fails no other can follow, and after any other pass the program goes on
  have hrendered : ∀ {next : Rendered → Program α} {rendered : Rendered} {st st₁ : RenderState}
      {first : List Event}, st.Adds st₁ first →
      Protocol r named (.pass e rendered.outcome) first →
      (∀ text e', (next ⟨text, .error e'⟩).FailsWith e') →
      (∀ text flow, ∃ events error, st₁.Adds ((next ⟨text, .ok flow⟩).run s st₁).2 events ∧
        Protocol r named (.passes e error) events ∧
        ∀ e', error = some e' → ((next ⟨text, .ok flow⟩).run s st₁).1 = .error e') →
      ∃ events error, st.Adds ((next rendered).run s st₁).2 events ∧
        Protocol r named (.passes e error) events ∧
        ∀ e', error = some e' → ((next rendered).run s st₁).1 = .error e' := by
    rintro next ⟨text, error | flow⟩ st st₁ first hadds hfirst hfails hmore
    · obtain ⟨houtcome, hnothing⟩ := (hfails text error).run (s := s) st₁
      refine ⟨first ++ [], some error, hadds.trans hnothing, ?_, ?_⟩
      · rw [List.append_nil]
        exact .lastPass hfirst
      · rintro _ ⟨⟩
        exact houtcome
    · obtain ⟨later, error, hlater, hpasses, houtcome⟩ := hmore text flow
      exact ⟨first ++ later, error, hadds.trans hlater, .morePasses hfirst hpasses, houtcome⟩
  induction p generalizing st with
  | done result => exact ⟨[], none, st.adds_nil, .noPass e, nofun⟩
  | fail error => exact ⟨[], none, st.adds_nil, .noPass e, nofun⟩
  | look next ih => exact ih _ (hp _) st
  | update change next ih => exact ih hp { st with scope := change st.scope }
  | render region next ih =>
    obtain ⟨first, hadds, hfirst⟩ := hs.region region st
    exact hrendered hadds hfirst hp.1 fun text flow => ih _ (hp.2 text flow) _
  | embed path next ih =>
    obtain ⟨first, hadds, hfirst⟩ := hs.embed path st
    exact hrendered hadds hfirst hp.1 fun text flow => ih _ (hp.2 text flow) _

/-- A hook adds its beginning, what it has rendered, and its end. -/
theorem Program.PassesOn.of_runHook (hs : s.Follows r named e) {p : Program α}
    (hp : p.PassesOn) {hook : Hook} {result : Except RenderError α → HookResult}
    (hresult : ∀ error, (result (.error error)).error? = some error) {st st₁ : RenderState}
    {answer : Except RenderError α} (hrun : p.runHook s hook e.tag result st = (answer, st₁)) :
    ∃ events, st.Adds st₁ events ∧ Protocol r named (.hook hook e (result answer)) events := by
  obtain ⟨inside, error, hadds, hpasses, houtcome⟩ :=
    hp.run hs (st.note (.hookBegins hook e.tag st.depth st.includeDepth))
  cases hrun
  refine ⟨_, hadds.enclose, .hook st.depth st.includeDepth hpasses ?_⟩
  intro e' herror
  rw [houtcome e' herror]
  exact hresult e'

namespace Handler

variable {h : Handler}

/-- An activation goes through the hooks in the order of the protocol. -/
theorem activate_follows (hh : h.PassesOn) (hs : s.Follows r named e) (st : RenderState) :
    ∃ events, st.Adds (h.activate e s st).state events ∧
      Protocol r named (.activation e (h.activate e s st).outcome) events := by
  have hguards : ∀ {answer st₁}, (h.guard e).runHook s .guard e.tag .guard st = (answer, st₁) →
      ∃ events, st.Adds st₁ events ∧
        Protocol r named (.hook .guard e (.guard answer)) events :=
    (hh.guard e).of_runHook hs fun _ => rfl
  have henters : ∀ {answer st₁ st₂},
      (h.enter e).runHook s .enter e.tag .enter st₁ = (answer, st₂) →
      ∃ events, st₁.Adds st₂ events ∧
        Protocol r named (.hook .enter e (.enter answer)) events :=
    (hh.enter e).of_runHook hs fun _ => rfl
  have hbodies : ∀ {answer st₂ st₃},
      (h.body e).runHook s .body e.tag .body (h.inBody st₂) = (answer, st₃) →
      ∃ events, st₂.Adds (st₃.afterBody st₂) events ∧
        Protocol r named (.hook .body e (.body answer)) events :=
    (hh.body e).of_runHook hs fun _ => rfl
  have hexits : ∀ {text answer st₃ st₄},
      (h.exit e text).runHook s .exit e.tag (.exit text) st₃ = (answer, st₄) →
      ∃ events, st₃.Adds st₄ events ∧
        Protocol r named (.hook .exit e (.exit text answer)) events :=
    fun {text} => (hh.exit e text).of_runHook hs fun _ => rfl
  have ha := h.activates_activate e s st
  generalize h.activate e s st = a at ha ⊢
  cases ha with
  | guardFails hguard =>
    obtain ⟨guard, hadds, hguard⟩ := hguards hguard
    exact ⟨guard, hadds, .guardFails hguard⟩
  | guardDeclines hguard =>
    obtain ⟨guard, hadds, hguard⟩ := hguards hguard
    exact ⟨guard, hadds, .guardDeclines hguard⟩
  | enterFails hguard henter =>
    obtain ⟨guard, hadds₁, hguard⟩ := hguards hguard
    obtain ⟨enter, hadds₂, henter⟩ := henters henter
    exact ⟨_, hadds₁.trans hadds₂, .enterFails hguard henter⟩
  | bodyFails hguard henter hbody =>
    obtain ⟨guard, hadds₁, hguard⟩ := hguards hguard
    obtain ⟨enter, hadds₂, henter⟩ := henters henter
    obtain ⟨body, hadds₃, hbody⟩ := hbodies hbody
    exact ⟨_, (hadds₁.trans hadds₂).trans hadds₃, .bodyFails hguard henter hbody⟩
  | bodyEnds hflow hguard henter hbody =>
    obtain ⟨guard, hadds₁, hguard⟩ := hguards hguard
    obtain ⟨enter, hadds₂, henter⟩ := henters henter
    obtain ⟨body, hadds₃, hbody⟩ := hbodies hbody
    exact ⟨_, (hadds₁.trans hadds₂).trans hadds₃, .bodyEnds hflow hguard henter hbody⟩
  | exitFails hguard henter hbody hexit =>
    obtain ⟨guard, hadds₁, hguard⟩ := hguards hguard
    obtain ⟨enter, hadds₂, henter⟩ := henters henter
    obtain ⟨body, hadds₃, hbody⟩ := hbodies hbody
    obtain ⟨exit, hadds₄, hexit⟩ := hexits hexit
    exact ⟨_, ((hadds₁.trans hadds₂).trans hadds₃).trans hadds₄,
      .exitFails hguard henter hbody hexit⟩
  | exits hguard henter hbody hexit =>
    obtain ⟨guard, hadds₁, hguard⟩ := hguards hguard
    obtain ⟨enter, hadds₂, henter⟩ := henters henter
    obtain ⟨body, hadds₃, hbody⟩ := hbodies hbody
    obtain ⟨exit, hadds₄, hexit⟩ := hexits hexit
    exact ⟨_, ((hadds₁.trans hadds₂).trans hadds₃).trans hadds₄,
      .exits hguard henter hbody hexit⟩

theorem activateWithin_follows (hh : h.PassesOn) (hs : s.Follows r named e)
    (st : RenderState) : ∃ events, st.Adds (h.activateWithin e s st).state events ∧
      Protocol r named (.activation e (h.activateWithin e s st).outcome) events := by
  by_cases hfits : e.Fits s.limits st
  · rw [activateWithin_of_fits hfits]
    obtain ⟨events, hadds, hevents⟩ := activate_follows hh hs (st.inside e)
    exact ⟨events, hadds.outside, hevents⟩
  · rw [activateWithin_of_full hfits]
    exact ⟨[], st.adds_nil, .tooDeep _ (Classical.not_imp.mp hfits).1⟩

end Handler

/-! ## Walking a tree -/

/-- The walk adds to the journal what the protocol allows for a row. -/
def Walker.Follows (r : Registry) (named : List Node → Prop) (nodes : List Node)
    (walk : Walker) : Prop :=
  ∀ chain out (st : RenderState), ∃ events, st.Adds (walk chain out st).state events ∧
    Protocol r named (.row chain nodes (walk chain out st).outcome) events

/-- So does the step over a node, whatever the protocol allows for the siblings after it. -/
def Step.Follows (r : Registry) (named : List Node → Prop) (node : Node) (chain : Chain)
    (st : RenderState) : Step → Prop
  | .goesOn after _ st₁ => ∃ events, st.Adds st₁ events ∧
    ∀ rest outcome later, Protocol r named (.row after rest outcome) later →
      Protocol r named (.row chain (node :: rest) outcome) (events ++ later)
  | .ends walk => ∃ events, st.Adds walk.state events ∧
    ∀ rest, Protocol r named (.row chain (node :: rest) walk.outcome) events

theorem Walker.Follows.pass {walk : Walker} {nodes : List Node}
    (h : walk.Follows r named nodes) (hnodes : e.Renders named nodes) :
    Render.Follows r named e (Setting.pass walk) := by
  intro st
  obtain ⟨events, hadds, hrow⟩ := h none "" (st.note .passBegins)
  exact ⟨_, hadds.enclose, .pass hnodes hrow⟩

/-- A setting whose handlers pass errors on, and in which includes add what the protocol allows. -/
structure Setting.Follows (named : List Node → Prop) (s : Setting) : Prop where
  registry : s.registry.PassesOn
  embed : ∀ e path, Render.Follows s.registry named e (s.embed path)

namespace Setting

variable {s : Setting}

theorem visit_follows (hs : s.Follows named) {region : Region → Render}
    (hregion : ∀ region', Render.Follows s.registry named e (region region')) (chain : Chain)
    (out : String) (st : RenderState) :
    (s.visit e region chain out st).Follows s.registry named e.node chain st := by
  have hsurroundings : Surroundings.Follows s.registry named e ⟨s.limits, region, s.embed⟩ :=
    ⟨hregion, hs.embed e⟩
  have hactivation : ∀ {h : Handler} {a : Activation}, s.registry.get? e.tag.name = some h →
      h.activateWithin e ⟨s.limits, region, s.embed⟩ st = a →
      ∃ events, st.Adds a.state events ∧
        Protocol s.registry named (.activation e a.outcome) events := by
    intro h a hname ha
    rw [← ha]
    exact Handler.activateWithin_follows (hs.registry _ h hname) hsurroundings st
  have hvisits := s.visits_visit e region chain out st
  generalize s.visit e region chain out st = step at hvisits
  cases hvisits with
  | unknown hname => exact ⟨[], st.adds_nil, fun _ => .unknown hname⟩
  | misplaced hname hturn => exact ⟨[], st.adds_nil, fun _ => .misplaced hname hturn⟩
  | passedOver hname hturn =>
    exact ⟨[], st.adds_nil, fun _ _ _ hrest => .passedOver hname hturn hrest⟩
  | fails hname hturn ha =>
    obtain ⟨events, hadds, htag⟩ := hactivation hname ha
    exact ⟨events, hadds, fun _ => .fails hname hturn htag⟩
  | proceeds hname hturn ha =>
    obtain ⟨events, hadds, htag⟩ := hactivation hname ha
    exact ⟨events, hadds, fun _ _ _ hrest => .proceeds hname hturn htag hrest⟩
  | breaksOff hflow hname hturn ha =>
    obtain ⟨events, hadds, htag⟩ := hactivation hname ha
    exact ⟨events, hadds, fun _ => .breaksOff hflow hname hturn htag⟩

/-- A walk adds to the journal what the protocol allows for its row. -/
theorem walk_follows (hs : s.Follows named) (nodes : List Node) :
    Walker.Follows s.registry named nodes (s.walk nodes) := by
  induction nodes using siblings_induction with
  | nil => exact fun chain _ st => ⟨[], st.adds_nil, .rowEnds chain⟩
  | text text rest ih =>
    intro chain out st
    obtain ⟨events, hadds, hrow⟩ := ih _ (out ++ text) st
    exact ⟨events, hadds, .text text hrow⟩
  | interpolation expression span rest ih =>
    intro chain out st
    obtain ⟨events, hadds, hrow⟩ := ih none (out ++ st.interpolation expression) st
    exact ⟨events, hadds, .interpolation expression span hrow⟩
  | tag e rest hrows ih =>
    intro chain out st
    have hvisit := visit_follows hs (fun region => (hrows region).pass (.region region)) chain out
      st
    rw [walk_tag]
    cases hstep : s.visit e (fun region => pass (s.walk (e.row region))) chain out st with
    | goesOn after out' st₁ =>
      rw [hstep] at hvisit
      obtain ⟨events, hadds, hrow⟩ := hvisit
      obtain ⟨later, hadds', hlater⟩ := ih after out' st₁
      exact ⟨events ++ later, hadds.trans hadds', hrow rest _ later hlater⟩
    | ends w =>
      rw [hstep] at hvisit
      obtain ⟨events, hadds, hrow⟩ := hvisit
      exact ⟨events, hadds, hrow rest⟩

end Setting

end TagTemplate
