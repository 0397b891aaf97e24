import TagTemplate.Proofs.Render.Activation

/-!
# How a row takes a tag

A tag stands among its siblings, and its row decides whether it is activated at all: not if no
handler goes by its name, if it is passed over, or if it is a block for which there is no room. What
is activated is activated inside one more block if it is one, which is closed after it
(`Handler.activateWithin_cases`). `Setting.Visits` says how the visit of a tag can go, one case for
each end, and holds of nothing else (`visits_visit`, `Visits.eq`). What a visit keeps, and which
errors it fails with, follows from what the activation does (`Setting.visit_state_cases`,
`Setting.failsOnly_visit`).
-/

namespace TagTemplate

/-! ## Blocks -/

/-- How many blocks are open in the hooks of a tag that stands where some are: one more if it is a
block itself. -/
def Element.depthInside (e : Element) (depth : Nat) : Nat :=
  match e.body with
  | none => depth
  | some _ => depth + 1

theorem Element.depthInside_eq (e : Element) (depth : Nat) :
    e.depthInside depth = depth + e.body.isSome.toNat := by
  unfold depthInside
  cases e.body with
  | none => rfl
  | some children => rfl

variable {h : Handler} {e : Element} {s : Surroundings} {st : RenderState}

/-- There is room for the tag: it is no block, or one more may be open. -/
def Element.Fits (e : Element) (limits : Limits) (st : RenderState) : Prop :=
  e.body.isSome = true → st.depth < limits.maxDepth

/-- The state in the hooks of a tag: a block is one more that is open. -/
def RenderState.inside (st : RenderState) (e : Element) : RenderState :=
  { st with depth := e.depthInside st.depth }

/-- The state after the hooks of a tag, where a block is closed again. -/
def RenderState.outside (st : RenderState) (e : Element) : RenderState :=
  match e.body with
  | none => st
  | some _ => { st with depth := st.depth - 1 }

@[simp]
theorem RenderState.scope_outside (st : RenderState) (e : Element) :
    (st.outside e).scope = st.scope := by
  unfold outside
  cases e.body with
  | none => rfl
  | some children => rfl

@[simp]
theorem RenderState.journal_outside (st : RenderState) (e : Element) :
    (st.outside e).journal = st.journal := by
  unfold outside
  cases e.body with
  | none => rfl
  | some children => rfl

/-- What was opened for a tag is closed after it. -/
theorem RenderState.outside_of_depth {depth : Nat} (h : st.depth = e.depthInside depth) :
    st.outside e = { st with depth } := by
  unfold outside
  unfold Element.depthInside at h
  cases hbody : e.body with
  | none =>
    rw [hbody] at h
    rw [← show st.depth = depth from h]
  | some children =>
    rw [hbody] at h
    have hdepth : st.depth - 1 = depth := by
      rw [show st.depth = depth + 1 from h]
      rfl
    rw [← hdepth]

/-- The activation, with the tag closed again. -/
def Activation.leaving (a : Activation) (e : Element) : Activation :=
  { a with state := a.state.outside e }

/-- Where there is room for a tag it is activated as the limit allows. -/
theorem Handler.activateWithin_of_fits
    (hfits : e.Fits s.limits st) : h.activateWithin e s st =
      (h.activate e s (st.inside e)).leaving e := by
  rcases e with ⟨tag, _ | children⟩
  · rfl
  · exact if_neg (Nat.not_le.mpr (hfits rfl))

/-- Where there is none for a block it fails before its hooks. -/
theorem Handler.activateWithin_of_full
    (hfull : ¬e.Fits s.limits st) : h.activateWithin e s st =
      ⟨"", .error (.tooDeep s.limits.maxDepth e.tag.span.line), st⟩ := by
  obtain ⟨hblock, hdepth⟩ := Classical.not_imp.mp hfull
  rcases e with ⟨tag, _ | children⟩
  · cases hblock
  · exact if_pos (Nat.not_lt.mp hdepth)

/-- So a property of activations holds of the one within the limit if it holds of the activation
inside the tag where there is room, and of the refusal where there is none. -/
@[elab_as_elim]
theorem Handler.activateWithin_cases {motive : Activation → Prop}
    (fits : e.Fits s.limits st → motive ((h.activate e s (st.inside e)).leaving e))
    (full : ¬e.Fits s.limits st →
      motive ⟨"", .error (.tooDeep s.limits.maxDepth e.tag.span.line), st⟩) :
    motive (h.activateWithin e s st) := by
  by_cases hfits : e.Fits s.limits st
  · rw [activateWithin_of_fits hfits]
    exact fits hfits
  · rw [activateWithin_of_full hfits]
    exact full hfits

/-! ## Visits -/

namespace Setting

/-- What a visit comes to, by how the row takes the tag. -/
inductive Visits (s : Setting) (e : Element) (region : Region → Render) (chain : Chain)
    (out : String) (st : RenderState) : Step → Prop
  | unknown (hname : s.registry.get? e.tag.name = none) :
    Visits s e region chain out st (.ends ⟨out, .error (.unknownTag e.tag.name), st⟩)
  | misplaced {h : Handler} (hname : s.registry.get? e.tag.name = some h)
    (hturn : turn h.branch chain = .refuse) :
    Visits s e region chain out st
      (.ends ⟨out, .error (.misplaced e.tag.name .afterBranch e.tag.span.line), st⟩)
  | passedOver {h : Handler} {after : Chain} (hname : s.registry.get? e.tag.name = some h)
    (hturn : turn h.branch chain = .passOver after) :
    Visits s e region chain out st (.goesOn after out st)
  | fails {h : Handler} {text : String} {error : RenderError} {st₁ : RenderState}
    (hname : s.registry.get? e.tag.name = some h) (hturn : turn h.branch chain = .run)
    (ha : h.activateWithin e ⟨s.limits, region, s.embed⟩ st = ⟨text, .error error, st₁⟩) :
    Visits s e region chain out st (.ends ⟨out, .error error, st₁⟩)
  | proceeds {h : Handler} {text : String} {ran : Bool} {st₁ : RenderState}
    (hname : s.registry.get? e.tag.name = some h) (hturn : turn h.branch chain = .run)
    (ha : h.activateWithin e ⟨s.limits, region, s.embed⟩ st = ⟨text, .ok (.proceed, ran), st₁⟩) :
    Visits s e region chain out st (.goesOn (chainAfter h.branch ran) (out ++ text) st₁)
  | breaksOff {h : Handler} {text : String} {flow : Flow} {ran : Bool} {st₁ : RenderState}
    (hflow : flow ≠ .proceed) (hname : s.registry.get? e.tag.name = some h)
    (hturn : turn h.branch chain = .run)
    (ha : h.activateWithin e ⟨s.limits, region, s.embed⟩ st = ⟨text, .ok (flow, ran), st₁⟩) :
    Visits s e region chain out st (.ends ⟨out ++ text, .ok flow, st₁⟩)

/-- A visit goes in one of these ways. -/
theorem visits_visit (s : Setting) (e : Element) (region : Region → Render) (chain : Chain)
    (out : String) (st : RenderState) :
    s.Visits e region chain out st (s.visit e region chain out st) := by
  unfold visit
  cases hname : s.registry.get? e.tag.name with
  | none => exact .unknown hname
  | some h =>
    simp only
    cases hturn : turn h.branch chain with
    | refuse => exact .misplaced hname hturn
    | passOver after => exact .passedOver hname hturn
    | run =>
      simp only
      rcases ha : h.activateWithin e ⟨s.limits, region, s.embed⟩ st with
        ⟨text, error | ⟨flow, ran⟩, st₁⟩
      · exact .fails hname hturn ha
      cases flow with
      | proceed => exact .proceeds hname hturn ha
      | breakLoop => exact .breaksOff (by decide) hname hturn ha
      | abort => exact .breaksOff (by decide) hname hturn ha

/-- It comes to nothing else. -/
theorem Visits.eq {s : Setting} {e : Element} {region : Region → Render} {chain : Chain}
    {out : String} {st : RenderState} {step : Step} (h : s.Visits e region chain out st step) :
    s.visit e region chain out st = step := by
  cases h with
  | unknown hname => simp only [visit, hname]
  | misplaced hname hturn => simp only [visit, hname, hturn]
  | passedOver hname hturn => simp only [visit, hname, hturn]
  | fails hname hturn ha => simp only [visit, hname, hturn, ha, Activation.step]
  | proceeds hname hturn ha => simp only [visit, hname, hturn, ha, Activation.step]
  | breaksOff hflow hname hturn ha => simp only [visit, hname, hturn, ha, Activation.step]

end Setting

/-- The state after a step. -/
def Step.state : Step → RenderState
  | .goesOn _ _ st => st
  | .ends walk => walk.state

/-- If the row ends, it is not for an error but one of a kind. -/
def Step.FailsOnly (kind : RenderError → Prop) : Step → Prop
  | .goesOn _ _ _ => True
  | .ends w => TagTemplate.FailsOnly kind w.outcome

namespace Setting

variable {s : Setting} {e : Element} {region : Region → Render} {chain : Chain} {out : String}
  {st : RenderState}

/-- A tag that has its turn is activated. -/
theorem visit_of_run {h : Handler} (hname : s.registry.get? e.tag.name = some h)
    (hturn : turn h.branch chain = .run) : s.visit e region chain out st =
      (h.activateWithin e ⟨s.limits, region, s.embed⟩ st).step h.branch out := by
  simp only [visit, hname, hturn]

/-- A visit leaves the state as it was, or as an activation of the tag leaves it. -/
@[elab_as_elim]
theorem visit_state_cases {motive : RenderState → Prop} (stays : motive st)
    (activated : ∀ h, s.registry.get? e.tag.name = some h →
      motive (h.activateWithin e ⟨s.limits, region, s.embed⟩ st).state) :
    motive (s.visit e region chain out st).state := by
  have hactivation : ∀ {h : Handler} {a : Activation}, s.registry.get? e.tag.name = some h →
      h.activateWithin e ⟨s.limits, region, s.embed⟩ st = a → motive a.state := by
    rintro h a hname rfl
    exact activated h hname
  have hvisits := s.visits_visit e region chain out st
  generalize s.visit e region chain out st = step at hvisits ⊢
  cases hvisits with
  | unknown => exact stays
  | misplaced => exact stays
  | passedOver => exact stays
  | fails hname _ ha => exact hactivation hname ha
  | proceeds hname _ ha => exact hactivation hname ha
  | breaksOff _ hname _ ha => exact hactivation hname ha

/-- A visit fails as an activation of the tag does, or because no handler goes by its name, or
because the tag is a branch that is misplaced. -/
theorem failsOnly_visit {kind : RenderError → Prop}
    (unknown : s.registry.get? e.tag.name = none → kind (.unknownTag e.tag.name))
    (misplaced : kind (.misplaced e.tag.name .afterBranch e.tag.span.line))
    (activated : ∀ h, s.registry.get? e.tag.name = some h →
      TagTemplate.FailsOnly kind (h.activateWithin e ⟨s.limits, region, s.embed⟩ st).outcome) :
    (s.visit e region chain out st).FailsOnly kind := by
  have hvisits := s.visits_visit e region chain out st
  generalize s.visit e region chain out st = step at hvisits ⊢
  cases hvisits with
  | unknown hname => exact failsOnly_error (unknown hname)
  | misplaced => exact failsOnly_error misplaced
  | passedOver => trivial
  | fails hname _ ha =>
    have hactivation := activated _ hname
    rw [ha] at hactivation
    exact hactivation.of_error
  | proceeds => trivial
  | breaksOff => exact failsOnly_ok _

end Setting

/-! ## Two visits -/

/-- Two steps that are the same but for their states, which are related. -/
inductive Step.Related (related : RenderState → RenderState → Prop) : Step → Step → Prop
  | goesOn {chain : Chain} {out : String} {st st' : RenderState} (h : related st st') :
    Related related (.goesOn chain out st) (.goesOn chain out st')
  | ends {out : String} {outcome : Except RenderError Flow} {st st' : RenderState}
    (h : related st st') : Related related (.ends ⟨out, outcome, st⟩) (.ends ⟨out, outcome, st'⟩)

theorem Step.Related.eq {step step' : Step}
    (h : Step.Related (fun st st' => st' = st) step step') : step' = step := by
  cases h with
  | goesOn hst => rw [hst]
  | ends hst => rw [hst]

/-- Two tags of one handler, in one line, are visited to the same if they are activated to the
same. -/
theorem Setting.visit_related {kind : RenderError → Prop}
    {related : RenderState → RenderState → Prop} {s s' : Setting} {e e' : Element}
    {region region' : Region → Render} {st st' : RenderState}
    (hregistry : s'.registry.get? e'.tag.name = s.registry.get? e.tag.name)
    (hname : e'.tag.name = e.tag.name) (hline : e'.tag.span.line = e.tag.span.line)
    (hactivation : ∀ h, s.registry.get? e.tag.name = some h →
      TagTemplate.FailsOnly kind (h.activateWithin e ⟨s.limits, region, s.embed⟩ st).outcome →
      Activation.Related related (h.activateWithin e ⟨s.limits, region, s.embed⟩ st)
        (h.activateWithin e' ⟨s'.limits, region', s'.embed⟩ st'))
    (hst : related st st') (chain : Chain) (out : String)
    (hkind : (s.visit e region chain out st).FailsOnly kind) :
    Step.Related related (s.visit e region chain out st) (s'.visit e' region' chain out st') := by
  have hactivates : ∀ {h : Handler} {text outcome st₁}, s.registry.get? e.tag.name = some h →
      h.activateWithin e ⟨s.limits, region, s.embed⟩ st = ⟨text, outcome, st₁⟩ →
      TagTemplate.FailsOnly kind outcome → ∃ st₁', related st₁ st₁' ∧
        h.activateWithin e' ⟨s'.limits, region', s'.embed⟩ st' = ⟨text, outcome, st₁'⟩ := by
    intro h text outcome st₁ hget ha houtcome
    have hboth := hactivation h hget
    rw [ha] at hboth
    obtain ⟨rfl, rfl, hafter⟩ := hboth houtcome
    exact ⟨_, hafter, rfl⟩
  have hvisits := s.visits_visit e region chain out st
  generalize s.visit e region chain out st = step at hvisits hkind ⊢
  cases hvisits with
  | unknown hget =>
    rw [← hregistry] at hget
    rw [(Visits.unknown hget).eq, hname]
    exact .ends hst
  | misplaced hget hturn =>
    rw [← hregistry] at hget
    rw [(Visits.misplaced hget hturn).eq, hname, hline]
    exact .ends hst
  | passedOver hget hturn =>
    rw [← hregistry] at hget
    rw [(Visits.passedOver hget hturn).eq]
    exact .goesOn hst
  | fails hget hturn ha =>
    obtain ⟨st₁', hafter, ha'⟩ := hactivates hget ha hkind.of_error
    rw [← hregistry] at hget
    rw [(Visits.fails hget hturn ha').eq]
    exact .ends hafter
  | proceeds hget hturn ha =>
    obtain ⟨st₁', hafter, ha'⟩ := hactivates hget ha (failsOnly_ok _)
    rw [← hregistry] at hget
    rw [(Visits.proceeds hget hturn ha').eq]
    exact .goesOn hafter
  | breaksOff hflow hget hturn ha =>
    obtain ⟨st₁', hafter, ha'⟩ := hactivates hget ha (failsOnly_ok _)
    rw [← hregistry] at hget
    rw [(Visits.breaksOff hflow hget hturn ha').eq]
    exact .ends hafter

theorem Step.failsOnly_true (step : Step) : step.FailsOnly fun _ => True := by
  cases step with
  | goesOn => trivial
  | ends => exact fun _ _ => trivial

/-- So they are if the activations are the same. -/
theorem Setting.visit_of_activations {s s' : Setting} {e e' : Element}
    {region region' : Region → Render} {st : RenderState}
    (hregistry : s'.registry.get? e'.tag.name = s.registry.get? e.tag.name)
    (hname : e'.tag.name = e.tag.name) (hline : e'.tag.span.line = e.tag.span.line)
    (hactivation : ∀ h, s.registry.get? e.tag.name = some h →
      h.activateWithin e' ⟨s'.limits, region', s'.embed⟩ st =
        h.activateWithin e ⟨s.limits, region, s.embed⟩ st)
    (chain : Chain) (out : String) :
    s'.visit e' region' chain out st = s.visit e region chain out st := by
  have hrelated : ∀ h, s.registry.get? e.tag.name = some h →
      TagTemplate.FailsOnly (fun _ => True)
        (h.activateWithin e ⟨s.limits, region, s.embed⟩ st).outcome →
      Activation.Related (fun st st' => st' = st)
        (h.activateWithin e ⟨s.limits, region, s.embed⟩ st)
        (h.activateWithin e' ⟨s'.limits, region', s'.embed⟩ st) := by
    intro h hget _
    rw [hactivation h hget]
    exact ⟨rfl, rfl, rfl⟩
  exact (visit_related hregistry hname hline hrelated rfl chain out (Step.failsOnly_true _)).eq

end TagTemplate
