import TagTemplate.Proofs.Render.Coupling
import TagTemplate.Proofs.Render.Induction

/-!
# The protocol of hooks

The journal of a render is a sequence of activations, each of them in the order of the hooks, and
each inside the hook that has it rendered. `Protocol` says which sequences of events can be told of
a row of siblings, of a tag among them, of a hook, and of what a hook has rendered. It speaks of
events only, not of variables or of what handlers do. In none of these sequences does a hook begin
after one has failed (`Protocol.calm`).
-/

namespace TagTemplate

/-! ## What can be told -/

/-- The rows of siblings that a tag can have rendered: those in its own regions, and others that its
hooks have a name for, such as the template at a path. -/
inductive Element.Renders (named : List Node → Prop) (e : Element) : List Node → Prop
  | region (region : Region) : Renders named e (e.row region)
  | named {nodes : List Node} (h : named nodes) : Renders named e nodes

/-- The error with which a hook failed. -/
def HookResult.error? : HookResult → Option RenderError
  | .guard (.error e) => some e
  | .enter (.error e) => some e
  | .body (.error e) => some e
  | .exit _ (.error e) => some e
  | _ => none

/-- What some events tell of, the earliest first. -/
inductive Stage where
  /-- Siblings after a chain of branches, up to where the row ends. -/
  | row (chain : Chain) (nodes : List Node) (outcome : Except RenderError Flow)
  /-- A tag that goes through its hooks; whether its guard let it run comes with the flow. -/
  | activation (e : Element) (outcome : Except RenderError (Flow × Bool))
  /-- A hook of a tag. -/
  | hook (hook : Hook) (e : Element) (result : HookResult)
  /-- All that a hook has rendered, up to an error if there is one. -/
  | passes (e : Element) (error : Option RenderError)
  /-- A row that a hook has rendered, or a request of it that was refused. -/
  | pass (e : Element) (outcome : Except RenderError Flow)

/-- The events that can be told of a stage of a render, with some handlers and some rows that can be
named. -/
inductive Protocol (r : Registry) (named : List Node → Prop) : Stage → List Event → Prop
  | rowEnds (chain : Chain) : Protocol r named (.row chain [] (.ok .proceed)) []
  | text {chain : Chain} {rest : List Node} {outcome : Except RenderError Flow}
    {events : List Event} (text : String)
    (hrest : Protocol r named
      (.row (if Text.isBlankText text then chain else none) rest outcome) events) :
    Protocol r named (.row chain (.text text :: rest) outcome) events
  | interpolation {chain : Chain} {rest : List Node} {outcome : Except RenderError Flow}
    {events : List Event} (expression : String) (span : Span)
    (hrest : Protocol r named (.row none rest outcome) events) :
    Protocol r named (.row chain (.interpolation expression span :: rest) outcome) events
  /-- A tag without a handler calls no hook. -/
  | unknown {chain : Chain} {rest : List Node} {e : Element}
    (hname : r.get? e.tag.name = none) :
    Protocol r named (.row chain (e.node :: rest) (.error (.unknownTag e.tag.name))) []
  /-- Neither does a branch that follows no other. -/
  | misplaced {chain : Chain} {rest : List Node} {e : Element} {h : Handler}
    (hname : r.get? e.tag.name = some h) (hturn : turn h.branch chain = .refuse) :
    Protocol r named (.row chain (e.node :: rest)
      (.error (.misplaced e.tag.name .afterBranch e.tag.span.line))) []
  /-- Nor a branch that follows one that has run. -/
  | passedOver {chain after : Chain} {rest : List Node} {outcome : Except RenderError Flow}
    {events : List Event} {e : Element} {h : Handler} (hname : r.get? e.tag.name = some h)
    (hturn : turn h.branch chain = .passOver after)
    (hrest : Protocol r named (.row after rest outcome) events) :
    Protocol r named (.row chain (e.node :: rest) outcome) events
  | proceeds {chain : Chain} {rest : List Node} {outcome : Except RenderError Flow} {ran : Bool}
    {first later : List Event} {e : Element} {h : Handler} (hname : r.get? e.tag.name = some h)
    (hturn : turn h.branch chain = .run)
    (htag : Protocol r named (.activation e (.ok (.proceed, ran))) first)
    (hrest : Protocol r named (.row (chainAfter h.branch ran) rest outcome) later) :
    Protocol r named (.row chain (e.node :: rest) outcome) (first ++ later)
  /-- A tag that does not proceed is the last of its row whose hooks are called. -/
  | breaksOff {chain : Chain} {rest : List Node} {flow : Flow} {ran : Bool} {events : List Event}
    {e : Element} {h : Handler} (hflow : flow ≠ .proceed) (hname : r.get? e.tag.name = some h)
    (hturn : turn h.branch chain = .run)
    (htag : Protocol r named (.activation e (.ok (flow, ran))) events) :
    Protocol r named (.row chain (e.node :: rest) (.ok flow)) events
  | fails {chain : Chain} {rest : List Node} {error : RenderError} {events : List Event}
    {e : Element} {h : Handler} (hname : r.get? e.tag.name = some h)
    (hturn : turn h.branch chain = .run)
    (htag : Protocol r named (.activation e (.error error)) events) :
    Protocol r named (.row chain (e.node :: rest) (.error error)) events
  /-- A block that nests too deep calls no hook. -/
  | tooDeep {e : Element} (limit : Nat) (hblock : e.body.isSome = true) :
    Protocol r named (.activation e (.error (.tooDeep limit e.tag.span.line))) []
  | guardFails {e : Element} {error : RenderError} {guard : List Event}
    (hguard : Protocol r named (.hook .guard e (.guard (.error error))) guard) :
    Protocol r named (.activation e (.error error)) guard
  | guardDeclines {e : Element} {guard : List Event}
    (hguard : Protocol r named (.hook .guard e (.guard (.ok false))) guard) :
    Protocol r named (.activation e (.ok (.proceed, false))) guard
  | enterFails {e : Element} {error : RenderError} {guard enter : List Event}
    (hguard : Protocol r named (.hook .guard e (.guard (.ok true))) guard)
    (henter : Protocol r named (.hook .enter e (.enter (.error error))) enter) :
    Protocol r named (.activation e (.error error)) (guard ++ enter)
  | bodyFails {e : Element} {error : RenderError} {guard enter body : List Event}
    (hguard : Protocol r named (.hook .guard e (.guard (.ok true))) guard)
    (henter : Protocol r named (.hook .enter e (.enter (.ok ()))) enter)
    (hbody : Protocol r named (.hook .body e (.body (.error error))) body) :
    Protocol r named (.activation e (.error error)) (guard ++ enter ++ body)
  | bodyEnds {e : Element} {text : String} {flow : Flow} {guard enter body : List Event}
    (hflow : flow ≠ .proceed)
    (hguard : Protocol r named (.hook .guard e (.guard (.ok true))) guard)
    (henter : Protocol r named (.hook .enter e (.enter (.ok ()))) enter)
    (hbody : Protocol r named (.hook .body e (.body (.ok (text, flow)))) body) :
    Protocol r named (.activation e (.ok (flow, true))) (guard ++ enter ++ body)
  | exitFails {e : Element} {text : String} {error : RenderError}
    {guard enter body exit : List Event}
    (hguard : Protocol r named (.hook .guard e (.guard (.ok true))) guard)
    (henter : Protocol r named (.hook .enter e (.enter (.ok ()))) enter)
    (hbody : Protocol r named (.hook .body e (.body (.ok (text, .proceed)))) body)
    (hexit : Protocol r named (.hook .exit e (.exit text (.error error))) exit) :
    Protocol r named (.activation e (.error error)) (guard ++ enter ++ body ++ exit)
  | exits {e : Element} {text output : String} {guard enter body exit : List Event}
    (hguard : Protocol r named (.hook .guard e (.guard (.ok true))) guard)
    (henter : Protocol r named (.hook .enter e (.enter (.ok ()))) enter)
    (hbody : Protocol r named (.hook .body e (.body (.ok (text, .proceed)))) body)
    (hexit : Protocol r named (.hook .exit e (.exit text (.ok output))) exit) :
    Protocol r named (.activation e (.ok (.proceed, true))) (guard ++ enter ++ body ++ exit)
  /-- Between the beginning and the end of a hook is what it has rendered. An error in that is the
  error of the hook. -/
  | hook {hook : Hook} {e : Element} {result : HookResult} {error : Option RenderError}
    {inside : List Event} (depth includes : Nat)
    (hinside : Protocol r named (.passes e error) inside)
    (herror : ∀ e, error = some e → result.error? = some e) :
    Protocol r named (.hook hook e result)
      (.hookBegins hook e.tag depth includes :: (inside ++ [.hookEnds e.tag result]))
  | noPass (e : Element) : Protocol r named (.passes e none) []
  | morePasses {e : Element} {flow : Flow} {error : Option RenderError} {first later : List Event}
    (hfirst : Protocol r named (.pass e (.ok flow)) first)
    (hlater : Protocol r named (.passes e error) later) :
    Protocol r named (.passes e error) (first ++ later)
  | lastPass {e : Element} {error : RenderError} {events : List Event}
    (hlast : Protocol r named (.pass e (.error error)) events) :
    Protocol r named (.passes e (some error)) events
  | pass {e : Element} {nodes : List Node} {outcome : Except RenderError Flow}
    {events : List Event} (hnodes : e.Renders named nodes)
    (hrow : Protocol r named (.row none nodes outcome) events) :
    Protocol r named (.pass e outcome) (.passBegins :: (events ++ [.passEnds outcome]))
  | refused (e : Element) (error : RenderError) :
    Protocol r named (.pass e (.error error)) []

variable {r : Registry} {named : List Node → Prop}

/-! ## After a failure -/

/-- The end of a hook that failed. -/
def Event.isFailure : Event → Bool
  | .hookEnds _ result => result.error?.isSome
  | _ => false

/-- The stage did not end in an error. -/
def Stage.Succeeds : Stage → Prop
  | .row _ _ outcome => outcome.isOk = true
  | .activation _ outcome => outcome.isOk = true
  | .hook _ _ result => result.error? = none
  | .passes _ error => error = none
  | .pass _ outcome => outcome.isOk = true

/-- No hook begins after one has failed. If all of it is to have succeeded, none has. -/
structure Calm (succeeds : Prop) (events : List Event) : Prop where
  quiet : events.Pairwise fun earlier later => earlier.isFailure = true → later.isSettled = true
  unfailing : succeeds → ∀ event ∈ events, event.isFailure = false

namespace Calm

variable {succeeds : Prop} {events first later : List Event}

theorem nil : Calm succeeds [] := ⟨.nil, fun _ => List.forall_mem_nil _⟩

/-- After events without a failure there can be any that are calm. -/
theorem append {earlier : Prop} (hfirst : Calm earlier first) (hearlier : earlier)
    (hlater : Calm succeeds later) : Calm succeeds (first ++ later) where
  quiet := by
    refine List.pairwise_append.mpr ⟨hfirst.quiet, hlater.quiet, ?_⟩
    intro event hevent _ _ hfailure
    rw [hfirst.unfailing hearlier event hevent] at hfailure
    cases hfailure
  unfailing h := List.forall_mem_append.mpr ⟨hfirst.unfailing hearlier, hlater.unfailing h⟩

/-- Events between two that are neither a failure nor the beginning of a hook, the first of them
perhaps such a beginning, and the last of them perhaps a failure. -/
theorem enclose {inside : Prop} {opening closing : Event} (hevents : Calm inside events)
    (hopening : opening.isFailure = false) (hclosing : closing.isSettled = true)
    (hsucceeds : succeeds → inside ∧ closing.isFailure = false) :
    Calm succeeds (opening :: (events ++ [closing])) where
  quiet := by
    refine List.pairwise_cons.mpr ⟨?_, List.pairwise_append.mpr ⟨hevents.quiet, ?_, ?_⟩⟩
    · intro _ _ hfailure
      rw [hopening] at hfailure
      cases hfailure
    · exact List.pairwise_singleton ..
    · intro _ _ event hevent _
      rw [List.mem_singleton.mp hevent]
      exact hclosing
  unfailing h := by
    obtain ⟨hinside, hlast⟩ := hsucceeds h
    exact List.forall_mem_cons.mpr ⟨hopening, List.forall_mem_append.mpr
      ⟨hevents.unfailing hinside, List.forall_mem_singleton.mpr hlast⟩⟩

theorem mono {wider : Prop} (h : Calm succeeds events) (hwider : wider → succeeds) :
    Calm wider events := ⟨h.quiet, fun hw => h.unfailing (hwider hw)⟩

end Calm

/-- In what the protocol allows no hook begins after one has failed, and none has failed in a stage
that succeeds. -/
theorem Protocol.calm {stage : Stage} {events : List Event} (h : Protocol r named stage events) :
    Calm stage.Succeeds events := by
  -- by induction on what is told: whatever is followed by something else has succeeded
  induction h with
  | rowEnds => exact .nil
  | text _ _ ih => exact ih
  | interpolation _ _ _ ih => exact ih
  | unknown => exact .nil
  | misplaced => exact .nil
  | passedOver _ _ _ ih => exact ih
  | proceeds _ _ _ _ htag hrest => exact htag.append rfl hrest
  | breaksOff _ _ _ _ ih => exact ih
  | fails _ _ _ ih => exact ih
  | tooDeep => exact .nil
  | guardFails _ ih => exact ih.mono nofun
  | guardDeclines _ ih => exact ih.mono fun _ => rfl
  | enterFails _ _ hguard henter => exact hguard.append rfl (henter.mono nofun)
  | bodyFails _ _ _ hguard henter hbody =>
    exact (hguard.append rfl henter).append rfl (hbody.mono nofun)
  | bodyEnds _ _ _ _ hguard henter hbody =>
    exact (hguard.append rfl henter).append rfl (hbody.mono fun _ => rfl)
  | exitFails _ _ _ _ hguard henter hbody hexit =>
    exact ((hguard.append rfl henter).append rfl hbody).append rfl (hexit.mono nofun)
  | exits _ _ _ _ hguard henter hbody hexit =>
    exact ((hguard.append rfl henter).append rfl hbody).append rfl (hexit.mono fun _ => rfl)
  | @hook _ _ result error _ _ _ _ herror ih =>
    refine ih.enclose rfl rfl fun hsucceeds => ⟨?_, ?_⟩
    · -- an error in what was rendered would be the error of the hook
      cases error with
      | none => rfl
      | some e =>
        have hresult : result.error? = none := hsucceeds
        rw [herror e rfl] at hresult
        cases hresult
    · have hresult : result.error? = none := hsucceeds
      show result.error?.isSome = false
      rw [hresult]
      rfl
  | noPass => exact .nil
  | morePasses _ _ hfirst hlater => exact hfirst.append rfl hlater
  | lastPass _ ih => exact ih.mono nofun
  | pass _ _ ih => exact ih.enclose rfl rfl fun hsucceeds => ⟨hsucceeds, rfl⟩
  | refused => exact .nil

end TagTemplate
