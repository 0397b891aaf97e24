import TagTemplate.Proofs.Render.Induction
import TagTemplate.Proofs.Render.Visits
import TagTemplate.Proofs.Render.Yields

/-!
# Where a flow comes from

A tag that does not proceed hands on what its body came to. So a tag whose body never comes to a
flow never ends a row of siblings with it (`visit_avoids`). The body of a handler may come to the
flow by itself, or only when something does that it has rendered (`Handler.HandsOn`).
-/

namespace TagTemplate

variable {flow : Flow}

/-- What was rendered did not end with the flow. -/
def Rendered.Avoids (flow : Flow) (rendered : Rendered) : Prop := rendered.outcome ≠ .ok flow

/-- The render never ends with the flow. -/
def Render.Avoids (flow : Flow) (render : Render) : Prop := ∀ st, (render st).1.Avoids flow

/-- The walk never ends with the flow. -/
def Walker.Avoids (flow : Flow) (walk : Walker) : Prop :=
  ∀ chain out st, (walk chain out st).outcome ≠ .ok flow

/-- If the row ends, it is not with the flow. -/
def Step.Avoids (flow : Flow) (step : Step) : Prop :=
  ∀ walk, step = .ends walk → walk.outcome ≠ .ok flow

/-- The handler comes to the flow only when something does that it has rendered in its body. -/
def Handler.HandsOn (flow : Flow) (h : Handler) : Prop :=
  ∀ e, (h.body e).Yields (Rendered.Avoids flow) (·.2 ≠ flow)

theorem Walker.Avoids.pass {walk : Walker} (h : walk.Avoids flow) :
    Render.Avoids flow (Setting.pass walk) :=
  fun st => h none "" (st.note .passBegins)

section

variable {allowed : Request → Prop} {answers : Rendered → Prop}

namespace Handler

variable {h : Handler} {e : Element} {s : Surroundings}

/-- An activation comes to a flow in its body. -/
theorem activate_avoids (hflow : flow ≠ .proceed) (hs : s.Answers allowed answers)
    (hasks : (h.body e).Asks allowed) (hyields : (h.body e).Yields answers (·.2 ≠ flow))
    (st : RenderState) (ran : Bool) : (h.activate e s st).outcome ≠ .ok (flow, ran) := by
  intro hends
  obtain ⟨text, st₁, st₂, hbody, -⟩ := body_of_activate hflow hends
  exact hyields.of_runHook hs hasks hbody rfl

theorem activateWithin_avoids (hflow : flow ≠ .proceed) (hs : s.Answers allowed answers)
    (hasks : (h.body e).Asks allowed) (hyields : (h.body e).Yields answers (·.2 ≠ flow))
    (st : RenderState) (ran : Bool) : (h.activateWithin e s st).outcome ≠ .ok (flow, ran) :=
  activateWithin_cases (fun _ => activate_avoids hflow hs hasks hyields (st.inside e) ran)
    fun _ => nofun

end Handler

/-- A tag ends its row with a flow only if the body of its handler comes to it. -/
theorem Setting.visit_avoids {s : Setting} (hflow : flow ≠ .proceed) {e : Element}
    {region : Region → Render}
    (hs : Surroundings.Answers ⟨s.limits, region, s.embed⟩ allowed answers)
    (hbody : ∀ h, s.registry.get? e.tag.name = some h →
      (h.body e).Asks allowed ∧ (h.body e).Yields answers (·.2 ≠ flow))
    (chain : Chain) (out : String) (st : RenderState) :
    (s.visit e region chain out st).Avoids flow := by
  intro walk hends
  have hvisits := s.visits_visit e region chain out st
  rw [hends] at hvisits
  cases hvisits with
  | unknown => exact nofun
  | misplaced => exact nofun
  | fails => exact nofun
  | @breaksOff h text other ran st₁ _ hname _ ha =>
    intro hsame
    obtain ⟨hasks, hyields⟩ := hbody h hname
    have havoids := Handler.activateWithin_avoids hflow hs hasks hyields st ran
    rw [ha] at havoids
    cases hsame
    exact havoids rfl

end

end TagTemplate
