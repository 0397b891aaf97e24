import TagTemplate.Render.Walk

/-!
# How a tag goes

A tag goes through the hooks of its handler until one of them ends it. `Handler.Activates` says how
this can go, one case for each end, with what every hook on the way came to. It holds of what an
activation comes to (`activates_activate`) and of nothing else (`Activates.eq`), so a proof about
activations goes by its cases. Most proofs need not: what each hook keeps an activation keeps
(`Handler.Keeps.activate`), it fails as one of its hooks does (`Handler.Keeps.failsOnly_activate`),
and two activations come to the same if their hooks do one by one (`Handler.SameRun.activate`).
-/

namespace TagTemplate

/-- Two handlings of a tag that go through the same hooks. -/
structure Handler.SameHooks (h : Handler) (e e' : Element) : Prop where
  guard : h.guard e' = h.guard e
  enter : h.enter e' = h.enter e
  body : h.body e' = h.body e
  exit : h.exit e' = h.exit e

/-- The state in which a handler renders its body: references may be replaced or not as the handler
says. -/
def Handler.inBody (h : Handler) (st : RenderState) : RenderState :=
  { st with interpolating := h.interpolation.getD st.interpolating }

/-- The state after a body, references being replaced or not as before it. -/
def RenderState.afterBody (st before : RenderState) : RenderState :=
  { st with interpolating := before.interpolating }

/-- What an activation comes to, by the hook in which it ends. -/
inductive Handler.Activates (h : Handler) (e : Element) (s : Surroundings) (st : RenderState) :
    Activation → Prop
  | guardFails {error : RenderError} {st₁ : RenderState}
    (hguard : (h.guard e).runHook s .guard e.tag .guard st = (.error error, st₁)) :
    Activates h e s st ⟨"", .error error, st₁⟩
  | guardDeclines {st₁ : RenderState}
    (hguard : (h.guard e).runHook s .guard e.tag .guard st = (.ok false, st₁)) :
    Activates h e s st ⟨"", .ok (.proceed, false), st₁⟩
  | enterFails {error : RenderError} {st₁ st₂ : RenderState}
    (hguard : (h.guard e).runHook s .guard e.tag .guard st = (.ok true, st₁))
    (henter : (h.enter e).runHook s .enter e.tag .enter st₁ = (.error error, st₂)) :
    Activates h e s st ⟨"", .error error, st₂⟩
  | bodyFails {error : RenderError} {st₁ st₂ st₃ : RenderState}
    (hguard : (h.guard e).runHook s .guard e.tag .guard st = (.ok true, st₁))
    (henter : (h.enter e).runHook s .enter e.tag .enter st₁ = (.ok (), st₂))
    (hbody : (h.body e).runHook s .body e.tag .body (h.inBody st₂) = (.error error, st₃)) :
    Activates h e s st ⟨"", .error error, st₃.afterBody st₂⟩
  | bodyEnds {text : String} {flow : Flow} {st₁ st₂ st₃ : RenderState} (hflow : flow ≠ .proceed)
    (hguard : (h.guard e).runHook s .guard e.tag .guard st = (.ok true, st₁))
    (henter : (h.enter e).runHook s .enter e.tag .enter st₁ = (.ok (), st₂))
    (hbody : (h.body e).runHook s .body e.tag .body (h.inBody st₂) = (.ok (text, flow), st₃)) :
    Activates h e s st ⟨text, .ok (flow, true), st₃.afterBody st₂⟩
  | exitFails {error : RenderError} {text : String} {st₁ st₂ st₃ st₄ : RenderState}
    (hguard : (h.guard e).runHook s .guard e.tag .guard st = (.ok true, st₁))
    (henter : (h.enter e).runHook s .enter e.tag .enter st₁ = (.ok (), st₂))
    (hbody : (h.body e).runHook s .body e.tag .body (h.inBody st₂) = (.ok (text, .proceed), st₃))
    (hexit : (h.exit e text).runHook s .exit e.tag (.exit text) (st₃.afterBody st₂) =
      (.error error, st₄)) :
    Activates h e s st ⟨"", .error error, st₄⟩
  | exits {text output : String} {st₁ st₂ st₃ st₄ : RenderState}
    (hguard : (h.guard e).runHook s .guard e.tag .guard st = (.ok true, st₁))
    (henter : (h.enter e).runHook s .enter e.tag .enter st₁ = (.ok (), st₂))
    (hbody : (h.body e).runHook s .body e.tag .body (h.inBody st₂) = (.ok (text, .proceed), st₃))
    (hexit : (h.exit e text).runHook s .exit e.tag (.exit text) (st₃.afterBody st₂) =
      (.ok output, st₄)) :
    Activates h e s st ⟨output, .ok (.proceed, true), st₄⟩

namespace Handler

/-- An activation goes in one of these ways. -/
theorem activates_activate (h : Handler) (e : Element) (s : Surroundings) (st : RenderState) :
    h.Activates e s st (h.activate e s st) := by
  unfold activate
  rcases hguard : (h.guard e).runHook s .guard e.tag .guard st with ⟨error | run, st₁⟩
  · exact .guardFails hguard
  cases run with
  | false => exact .guardDeclines hguard
  | true =>
    simp only
    rcases henter : (h.enter e).runHook s .enter e.tag .enter st₁ with ⟨error | _, st₂⟩
    · exact .enterFails hguard henter
    simp only
    rcases hbody : (h.body e).runHook s .body e.tag .body
      { st₂ with interpolating := h.interpolation.getD st₂.interpolating } with
      ⟨error | ⟨text, flow⟩, st₃⟩
    · exact .bodyFails hguard henter hbody
    cases flow with
    | breakLoop => exact .bodyEnds (by decide) hguard henter hbody
    | abort => exact .bodyEnds (by decide) hguard henter hbody
    | proceed =>
      simp only
      rcases hexit : (h.exit e text).runHook s .exit e.tag (.exit text)
        { st₃ with interpolating := st₂.interpolating } with ⟨error | output, st₄⟩
      · exact .exitFails hguard henter hbody hexit
      · exact .exits hguard henter hbody hexit

/-- It comes to nothing else. -/
theorem Activates.eq {h : Handler} {e : Element} {s : Surroundings} {st : RenderState}
    {a : Activation} (ha : h.Activates e s st a) : h.activate e s st = a := by
  cases ha with
  | guardFails hguard => rw [activate, hguard]
  | guardDeclines hguard => rw [activate, hguard]
  | enterFails hguard henter => simp only [activate, hguard, henter]
  | bodyFails hguard henter hbody =>
    rw [inBody] at hbody
    simp only [activate, hguard, henter, hbody]
    rfl
  | @bodyEnds _ flow _ _ _ hflow hguard henter hbody =>
    rw [inBody] at hbody
    simp only [activate, hguard, henter, hbody]
    cases flow with
    | proceed => exact absurd rfl hflow
    | breakLoop => rfl
    | abort => rfl
  | exitFails hguard henter hbody hexit =>
    rw [inBody] at hbody
    rw [RenderState.afterBody] at hexit
    simp only [activate, hguard, henter, hbody, hexit]
  | exits hguard henter hbody hexit =>
    rw [inBody] at hbody
    rw [RenderState.afterBody] at hexit
    simp only [activate, hguard, henter, hbody, hexit]

/-- A tag that does not proceed hands on what its body came to, and no hook is called after that. -/
theorem body_of_activate {h : Handler} {e : Element} {s : Surroundings} {st : RenderState}
    {flow : Flow} {ran : Bool} (hflow : flow ≠ .proceed)
    (hends : (h.activate e s st).outcome = .ok (flow, ran)) :
    ∃ text st₁ st₂, (h.body e).runHook s .body e.tag .body (h.inBody st₁) =
      (.ok (text, flow), st₂) ∧ (h.activate e s st).state = st₂.afterBody st₁ := by
  have ha := h.activates_activate e s st
  generalize h.activate e s st = a at ha hends ⊢
  cases ha with
  | guardFails => cases hends
  | guardDeclines =>
    cases hends
    exact absurd rfl hflow
  | enterFails => cases hends
  | bodyFails => cases hends
  | bodyEnds _ _ _ hbody =>
    cases hends
    exact ⟨_, _, _, hbody, rfl⟩
  | exitFails => cases hends
  | exits =>
    cases hends
    exact absurd rfl hflow

end Handler

/-! ## What activations keep -/

/-- The outcome is no error but one of a kind. -/
def FailsOnly {α : Type} (kind : RenderError → Prop) (outcome : Except RenderError α) : Prop :=
  ∀ e, outcome = .error e → kind e

theorem failsOnly_ok {α : Type} {kind : RenderError → Prop} (result : α) :
    FailsOnly kind (.ok result) := fun _ h => nomatch h

theorem failsOnly_error {α : Type} {kind : RenderError → Prop} {e : RenderError} (h : kind e) :
    FailsOnly kind (.error e : Except RenderError α) := by
  intro e' he
  cases he
  exact h

theorem FailsOnly.of_error {α β : Type} {kind : RenderError → Prop} {e : RenderError}
    (h : FailsOnly kind (.error e : Except RenderError α)) :
    FailsOnly kind (.error e : Except RenderError β) := failsOnly_error (h e rfl)

theorem failsOnly_false_iff {α : Type} {outcome : Except RenderError α} :
    FailsOnly (fun _ => False) outcome ↔ outcome.isOk = true := by
  cases outcome with
  | error e => exact iff_of_false (fun h => h e rfl) nofun
  | ok result => exact iff_of_true (failsOnly_ok result) rfl

namespace Handler

/-- Each hook of a tag that begins in a state of some kind leaves one of the kind: after the body,
when references are replaced again as before it. -/
structure Keeps (h : Handler) (inv : RenderState → Prop) (e : Element) (s : Surroundings) :
    Prop where
  guard : ∀ {st answer st₁}, inv st →
    (h.guard e).runHook s .guard e.tag .guard st = (answer, st₁) → inv st₁
  enter : ∀ {st answer st₁}, inv st →
    (h.enter e).runHook s .enter e.tag .enter st = (answer, st₁) → inv st₁
  body : ∀ {st answer st₁}, inv st →
    (h.body e).runHook s .body e.tag .body (h.inBody st) = (answer, st₁) → inv (st₁.afterBody st)
  exit : ∀ {text st answer st₁}, inv st →
    (h.exit e text).runHook s .exit e.tag (.exit text) st = (answer, st₁) → inv st₁

/-- Each hook of a tag that begins in a state of some kind fails only with errors of a kind. -/
structure FailsFrom (h : Handler) (kind : RenderError → Prop) (inv : RenderState → Prop)
    (e : Element) (s : Surroundings) : Prop where
  guard : ∀ {st answer st₁}, inv st →
    (h.guard e).runHook s .guard e.tag .guard st = (answer, st₁) → FailsOnly kind answer
  enter : ∀ {st answer st₁}, inv st →
    (h.enter e).runHook s .enter e.tag .enter st = (answer, st₁) → FailsOnly kind answer
  body : ∀ {st answer st₁}, inv st →
    (h.body e).runHook s .body e.tag .body (h.inBody st) = (answer, st₁) → FailsOnly kind answer
  exit : ∀ {text st answer st₁}, inv st →
    (h.exit e text).runHook s .exit e.tag (.exit text) st = (answer, st₁) → FailsOnly kind answer

variable {h : Handler} {kind : RenderError → Prop} {inv : RenderState → Prop} {e : Element}
  {s : Surroundings} {st : RenderState}

theorem keeps_true (h : Handler) (e : Element) (s : Surroundings) : h.Keeps (fun _ => True) e s :=
  ⟨fun _ _ => trivial, fun _ _ => trivial, fun _ _ => trivial, fun _ _ => trivial⟩

/-- What its hooks keep an activation keeps, whichever of them it ends in. -/
theorem Keeps.activate (hkeeps : h.Keeps inv e s) (hst : inv st) :
    inv (h.activate e s st).state := by
  have ha := h.activates_activate e s st
  generalize h.activate e s st = a at ha ⊢
  cases ha with
  | guardFails hguard => exact hkeeps.guard hst hguard
  | guardDeclines hguard => exact hkeeps.guard hst hguard
  | enterFails hguard henter => exact hkeeps.enter (hkeeps.guard hst hguard) henter
  | bodyFails hguard henter hbody =>
    exact hkeeps.body (hkeeps.enter (hkeeps.guard hst hguard) henter) hbody
  | bodyEnds hflow hguard henter hbody =>
    exact hkeeps.body (hkeeps.enter (hkeeps.guard hst hguard) henter) hbody
  | exitFails hguard henter hbody hexit =>
    have h₂ := hkeeps.enter (hkeeps.guard hst hguard) henter
    exact hkeeps.exit (hkeeps.body h₂ hbody) hexit
  | exits hguard henter hbody hexit =>
    have h₂ := hkeeps.enter (hkeeps.guard hst hguard) henter
    exact hkeeps.exit (hkeeps.body h₂ hbody) hexit

/-- An activation fails as one of its hooks does. -/
theorem Keeps.failsOnly_activate (hkeeps : h.Keeps inv e s) (hfails : h.FailsFrom kind inv e s)
    (hst : inv st) : FailsOnly kind (h.activate e s st).outcome := by
  have ha := h.activates_activate e s st
  generalize h.activate e s st = a at ha ⊢
  cases ha with
  | guardFails hguard => exact (hfails.guard hst hguard).of_error
  | guardDeclines => exact failsOnly_ok _
  | enterFails hguard henter =>
    exact (hfails.enter (hkeeps.guard hst hguard) henter).of_error
  | bodyFails hguard henter hbody =>
    exact (hfails.body (hkeeps.enter (hkeeps.guard hst hguard) henter) hbody).of_error
  | bodyEnds => exact failsOnly_ok _
  | exitFails hguard henter hbody hexit =>
    have h₂ := hkeeps.enter (hkeeps.guard hst hguard) henter
    exact (hfails.exit (hkeeps.body h₂ hbody) hexit).of_error
  | exits => exact failsOnly_ok _

end Handler

/-! ## Two activations -/

/-- Two activations that come to the same but for their states, which are related. -/
structure Activation.Related (related : RenderState → RenderState → Prop) (a a' : Activation) :
    Prop where
  text : a'.text = a.text
  outcome : a'.outcome = a.outcome
  state : related a.state a'.state

theorem Activation.Related.eq {related : RenderState → RenderState → Prop} {a a' : Activation}
    (h : Activation.Related related a a') (hstate : a'.state = a.state) : a' = a := by
  obtain ⟨htext, houtcome, -⟩ := h
  cases a
  cases a'
  cases htext
  cases houtcome
  cases hstate
  rfl

namespace Handler

/-- Two tags whose hooks come to the same from states that are related, and to related states. Where
a hook fails this is asked of one kind of errors only. -/
structure SameRun (h : Handler) (kind : RenderError → Prop)
    (related : RenderState → RenderState → Prop) (e e' : Element) (s s' : Surroundings) : Prop where
  guard : ∀ {st st' answer st₁}, related st st' →
    (h.guard e).runHook s .guard e.tag .guard st = (answer, st₁) → FailsOnly kind answer →
    ∃ st₁', (h.guard e').runHook s' .guard e'.tag .guard st' = (answer, st₁') ∧ related st₁ st₁'
  enter : ∀ {st st' answer st₁}, related st st' →
    (h.enter e).runHook s .enter e.tag .enter st = (answer, st₁) → FailsOnly kind answer →
    ∃ st₁', (h.enter e').runHook s' .enter e'.tag .enter st' = (answer, st₁') ∧ related st₁ st₁'
  body : ∀ {st st' answer st₁}, related st st' →
    (h.body e).runHook s .body e.tag .body (h.inBody st) = (answer, st₁) → FailsOnly kind answer →
    ∃ st₁', (h.body e').runHook s' .body e'.tag .body (h.inBody st') = (answer, st₁') ∧
      related (st₁.afterBody st) (st₁'.afterBody st')
  exit : ∀ {text st st' answer st₁}, related st st' →
    (h.exit e text).runHook s .exit e.tag (.exit text) st = (answer, st₁) →
    FailsOnly kind answer →
    ∃ st₁', (h.exit e' text).runHook s' .exit e'.tag (.exit text) st' = (answer, st₁') ∧
      related st₁ st₁'

/-- Such tags are activated to the same. -/
theorem SameRun.activate {h : Handler} {kind : RenderError → Prop}
    {related : RenderState → RenderState → Prop} {e e' : Element} {s s' : Surroundings}
    (hsame : h.SameRun kind related e e' s s') {st st' : RenderState} (hst : related st st')
    (hkind : FailsOnly kind (h.activate e s st).outcome) :
    Activation.Related related (h.activate e s st) (h.activate e' s' st') := by
  have ha := h.activates_activate e s st
  generalize h.activate e s st = a at ha hkind ⊢
  -- each hook on the way comes to the same, and so does the one in which the activation ends
  cases ha with
  | guardFails hguard =>
    obtain ⟨st₁', hguard', h₁⟩ := hsame.guard hst hguard hkind.of_error
    rw [(Activates.guardFails hguard').eq]
    exact ⟨rfl, rfl, h₁⟩
  | guardDeclines hguard =>
    obtain ⟨st₁', hguard', h₁⟩ := hsame.guard hst hguard (failsOnly_ok _)
    rw [(Activates.guardDeclines hguard').eq]
    exact ⟨rfl, rfl, h₁⟩
  | enterFails hguard henter =>
    obtain ⟨st₁', hguard', h₁⟩ := hsame.guard hst hguard (failsOnly_ok _)
    obtain ⟨st₂', henter', h₂⟩ := hsame.enter h₁ henter hkind.of_error
    rw [(Activates.enterFails hguard' henter').eq]
    exact ⟨rfl, rfl, h₂⟩
  | bodyFails hguard henter hbody =>
    obtain ⟨st₁', hguard', h₁⟩ := hsame.guard hst hguard (failsOnly_ok _)
    obtain ⟨st₂', henter', h₂⟩ := hsame.enter h₁ henter (failsOnly_ok _)
    obtain ⟨st₃', hbody', h₃⟩ := hsame.body h₂ hbody hkind.of_error
    rw [(Activates.bodyFails hguard' henter' hbody').eq]
    exact ⟨rfl, rfl, h₃⟩
  | bodyEnds hflow hguard henter hbody =>
    obtain ⟨st₁', hguard', h₁⟩ := hsame.guard hst hguard (failsOnly_ok _)
    obtain ⟨st₂', henter', h₂⟩ := hsame.enter h₁ henter (failsOnly_ok _)
    obtain ⟨st₃', hbody', h₃⟩ := hsame.body h₂ hbody (failsOnly_ok _)
    rw [(Activates.bodyEnds hflow hguard' henter' hbody').eq]
    exact ⟨rfl, rfl, h₃⟩
  | exitFails hguard henter hbody hexit =>
    obtain ⟨st₁', hguard', h₁⟩ := hsame.guard hst hguard (failsOnly_ok _)
    obtain ⟨st₂', henter', h₂⟩ := hsame.enter h₁ henter (failsOnly_ok _)
    obtain ⟨st₃', hbody', h₃⟩ := hsame.body h₂ hbody (failsOnly_ok _)
    obtain ⟨st₄', hexit', h₄⟩ := hsame.exit h₃ hexit hkind.of_error
    rw [(Activates.exitFails hguard' henter' hbody' hexit').eq]
    exact ⟨rfl, rfl, h₄⟩
  | exits hguard henter hbody hexit =>
    obtain ⟨st₁', hguard', h₁⟩ := hsame.guard hst hguard (failsOnly_ok _)
    obtain ⟨st₂', henter', h₂⟩ := hsame.enter h₁ henter (failsOnly_ok _)
    obtain ⟨st₃', hbody', h₃⟩ := hsame.body h₂ hbody (failsOnly_ok _)
    obtain ⟨st₄', hexit', h₄⟩ := hsame.exit h₃ hexit (failsOnly_ok _)
    rw [(Activates.exits hguard' henter' hbody' hexit').eq]
    exact ⟨rfl, rfl, h₄⟩

end Handler

end TagTemplate
