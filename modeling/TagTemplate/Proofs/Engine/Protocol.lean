import TagTemplate.Proofs.Engine.Hosting
import TagTemplate.Proofs.Handler.Recipes
import TagTemplate.Proofs.Render.Following

/-!
# The journal of a render

The journal of a whole render is one pass over the nodes of the template, in which all tags go
through their hooks as the protocol of hooks allows, those of included templates as well, and those
in any other row of nodes that a hook has rendered (`journal_protocol`). Handlers can do as they
like, as long as they pass errors on.
-/

namespace TagTemplate

/-- What a journal tells, the latest event first: of one pass over some nodes and how it ended, with
what the protocol allows for this row in between. No hook begins after one has failed. -/
def KeepsProtocol (r : Registry) (named : List Node → Prop) (nodes : List Node)
    (outcome : Except RenderError Flow) (journal : List Event) : Prop :=
  ∃ events, journal.reverse = .passBegins :: (events ++ [.passEnds outcome]) ∧
    Protocol r named (.row none nodes outcome) events ∧
    events.Pairwise fun earlier later => earlier.isFailure = true → later.isSettled = true

namespace Engine

variable {engine : Engine}

/-- The rows that hooks can have rendered by a name: those that names stand for, and the templates at
the paths that names stand for. -/
inductive CanMeet (engine : Engine) (stands : String → Named) : List Node → Prop
  | row {name : String} {nodes : List Node} (hname : stands name = .row nodes) :
    CanMeet engine stands nodes
  | template {name path : String} {template : Template} (hname : stands name = .template path)
    (hfetch : engine.fetch path = .ok template) : CanMeet engine stands template.nodes

/-- A template in the place of an include is a pass of the tag that includes it. -/
theorem renderOpened_follows {r : Registry} {named : List Node → Prop} {nodes : List Node}
    {walk : Walker} (h : walk.Follows r named nodes) (hnodes : named nodes) (e : Element) :
    Render.Follows r named e (renderOpened walk) := by
  intro st
  exact h.pass (.named hnodes)
    { st with interpolating := false, includeDepth := st.includeDepth + 1 }

/-- An include adds such a pass, or nothing if it fails before its template is rendered. -/
theorem opening_follows {r : Registry} {named : List Node → Prop} {walk : List Node → Walker}
    {path : String} (h : ∀ nodes, (walk nodes).Follows r named nodes)
    (hnamed : ∀ template, engine.fetch path = .ok template → named template.nodes) (e : Element) :
    Render.Follows r named e (engine.opening walk path) := by
  intro st
  rcases engine.opening_cases walk path st with ⟨error, hopening, -⟩ | ⟨template, hfetch, hopening⟩
  · rw [hopening]
    exact ⟨[], st.adds_nil, .refused e error⟩
  · rw [hopening]
    exact renderOpened_follows (h template.nodes) (hnamed template hfetch) e st

/-- What is met by a name adds a pass over what the name stands for, or nothing if it is refused. -/
theorem meet_follows (hr : engine.registry.PassesOn) (stands : String → Named) (budget : Nat)
    (e : Element) (name : String) :
    Render.Follows engine.registry (engine.CanMeet stands) e (engine.meet stands budget name) := by
  -- the budget bounds how deep requests nest; a journal does not show it
  induction budget generalizing e name with
  | zero => exact fun st => ⟨[], st.adds_nil, .refused e _⟩
  | succ budget ih =>
    have hsetting : Setting.Follows (engine.CanMeet stands) (engine.hosting stands budget) :=
      ⟨hr, ih⟩
    have hwalk := Setting.walk_follows hsetting
    rw [meet]
    cases hname : stands name with
    | row nodes => exact (hwalk nodes).pass (.named (.row hname))
    | template path => exact opening_follows hwalk (fun _ => .template hname) e

/-- The journal of what a host renders keeps to the protocol. -/
theorem hostJournal_keepsProtocol (hr : engine.registry.PassesOn) (stands : String → Named)
    (budget : Nat) (template : Template) (scope : Scope) :
    KeepsProtocol engine.registry (engine.CanMeet stands) template.nodes
      (engine.hosted stands budget template (.start scope)).1.outcome
      (engine.hostJournal stands budget template scope) := by
  have hsetting : Setting.Follows (engine.CanMeet stands) (engine.hosting stands budget) :=
    ⟨hr, engine.meet_follows hr stands budget⟩
  obtain ⟨events, hadds, hrow⟩ := Setting.walk_follows hsetting template.nodes none ""
    ((RenderState.watched scope).note .passBegins)
  have hadded : (RenderState.watched scope).Adds
      (engine.hosted stands budget template (.watched scope)).2 (.passBegins :: (events ++
        [.passEnds (engine.hosted stands budget template (.watched scope)).1.outcome])) :=
    hadds.enclose
  have hjournal := Option.some.inj
    ((journal_hosted_watched stands budget template scope).symm.trans (hadded.journal_eq rfl))
  rw [← (hosted_watched stands budget template scope).1]
  refine ⟨events, ?_, hrow, hrow.calm.quiet⟩
  rw [hjournal, List.reverse_reverse]

/-- In the journal of a render all tags go through their hooks as the protocol of hooks allows, up
to where the render ends. No hook begins after one has failed. So it is when hooks can ask for other
rows of nodes than their own, whichever they are and however deep such requests nest. -/
theorem journal_protocol (hr : engine.registry.PassesOn) (template : Template) (scope : Scope) :
    KeepsProtocol engine.registry (engine.CanMeet .template) template.nodes
      (engine.run template (.start scope)).1.outcome (engine.journal template scope) ∧
    ∀ stands budget, KeepsProtocol engine.registry (engine.CanMeet stands) template.nodes
      (engine.hosted stands budget template (.start scope)).1.outcome
      (engine.hostJournal stands budget template scope) := by
  refine ⟨?_, fun stands budget => hostJournal_keepsProtocol hr stands budget template scope⟩
  rw [← hosted_template, ← hostJournal_template]
  exact hostJournal_keepsProtocol hr .template _ template scope

/-- A tag whose handler renders a row by a name after its children, with text after it. -/
def framed : Template :=
  ⟨[.block ⟨"frame", .empty, "", ⟨0, 7, 1, 1⟩⟩ [.text "a"], .text "x"]⟩

/-- An abort, with text after it. -/
def abortedRow : List Node := [.void ⟨"cfabort", .empty, "", ⟨0, 9, 1, 1⟩⟩, .text "y"]

/-- The hook that renders the row ends with the abort in it. Where the name is a path without a
template, it fails. -/
theorem journal_protocol_of_row :
    let recipe : Recipe := { embeds := some "inner" }
    let engine : Engine := { registry := Builtin.registry.register "frame" recipe.toHandler }
    let stands : String → Named := fun _ => .row abortedRow
    KeepsProtocol engine.registry (engine.CanMeet .template) framed.nodes
      (.error (.includeResolution "inner" "no template loader configured for 'inner'"))
      (engine.journal framed .empty) ∧
    KeepsProtocol engine.registry (engine.CanMeet stands) framed.nodes (.ok .abort)
      (engine.hostJournal stands 1 framed .empty) := by
  intro recipe engine stands
  have hr : engine.registry.PassesOn := Registry.of_get?_register
    Builtin.registry_raises.passesOn "frame" recipe.toHandler_raises.passesOn
  obtain ⟨hrender, hhosts⟩ := journal_protocol hr framed .empty
  exact ⟨hrender, hhosts stands 1⟩

end Engine

end TagTemplate
