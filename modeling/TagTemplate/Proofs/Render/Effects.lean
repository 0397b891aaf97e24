import TagTemplate.Proofs.Render.Bookkeeping

/-!
# What a render does to the variables

An effect is a relation between the variables before and after something, as that no name is lost,
or that one variable keeps its value. What a hook does to the variables is what its updates do, and
what is rendered at its request; so where all updates of all hooks have an effect, each render has
it, however it ends (`run_has`). Hooks may be asked about for the tags of one template only, if none
of them has another template rendered.
-/

namespace TagTemplate

/-- A relation between the variables before and after something, that can be shown step by step. -/
structure Effect where
  rel : Scope → Scope → Prop
  refl : ∀ scope, rel scope scope
  trans : ∀ {a b c}, rel a b → rel b c → rel a c

variable {α : Type} {effect : Effect} {embeds : Prop}

/-! ## Programs -/

/-- All updates of the program have the effect, and it has other templates rendered only if it
may. -/
def Program.Has (effect : Effect) (embeds : Prop) : Program α → Prop
  | .done _ => True
  | .fail _ => True
  | .look next => ∀ view, (next view).Has effect embeds
  | .update change next => (∀ scope, effect.rel scope (change scope)) ∧ next.Has effect embeds
  | .render _ next => ∀ rendered, (next rendered).Has effect embeds
  | .embed _ next => embeds ∧ ∀ rendered, (next rendered).Has effect embeds

namespace Program.Has

variable {β : Type}

theorem andThen {p : Program α} {f : α → Program β} (hp : p.Has effect embeds)
    (hf : ∀ a, (f a).Has effect embeds) : (p.andThen f).Has effect embeds := by
  induction p with
  | done result => exact hf result
  | fail error => trivial
  | look next ih => exact fun view => ih view (hp view)
  | update change next ih => exact ⟨hp.1, ih hp.2⟩
  | render region next ih => exact fun rendered => ih rendered (hp rendered)
  | embed path next ih => exact ⟨hp.1, fun rendered => ih rendered (hp.2 rendered)⟩

theorem ofExcept (result : Except RenderError α) : (Program.ofExcept result).Has effect embeds := by
  cases result with
  | error e => trivial
  | ok a => trivial

/-- What follows a result may depend on what it is. -/
theorem ofExcept_andThen {result : Except RenderError α} {f : α → Program β}
    (hf : ∀ a, result = .ok a → (f a).Has effect embeds) :
    ((Program.ofExcept result).andThen f).Has effect embeds := by
  cases result with
  | error e => trivial
  | ok a => exact hf a rfl

theorem scope : Program.scope.Has effect embeds := fun _ => trivial

theorem passOn (rendered : Rendered) : (Program.passOn rendered).Has effect embeds := by
  unfold Program.passOn
  split <;> trivial

theorem rendered (region : Region) : (Program.rendered region).Has effect embeds := passOn

theorem embedded (h : embeds) (path : String) : (Program.embedded path).Has effect embeds :=
  ⟨h, passOn⟩

end Program.Has

/-- The render has the effect. -/
def Render.Has (effect : Effect) (render : Render) : Prop :=
  ∀ st, effect.rel st.scope (render st).2.scope

/-- All that is rendered in some surroundings has the effect, other templates if hooks may have them
rendered. -/
structure Surroundings.Has (effect : Effect) (embeds : Prop) (s : Surroundings) : Prop where
  region : ∀ region, Render.Has effect (s.region region)
  embed : embeds → ∀ path, Render.Has effect (s.embed path)

/-- A run has the effect of its updates and of what it has rendered. -/
theorem Program.Has.run {s : Surroundings} (hs : s.Has effect embeds) {p : Program α}
    (hp : p.Has effect embeds) (st : RenderState) : effect.rel st.scope (p.run s st).2.scope := by
  induction p generalizing st with
  | done result => exact effect.refl _
  | fail error => exact effect.refl _
  | look next ih => exact ih _ (hp _) st
  | update change next ih =>
    exact effect.trans (hp.1 st.scope) (ih hp.2 { st with scope := change st.scope })
  | render region next ih => exact effect.trans (hs.region region st) (ih _ (hp _) _)
  | embed path next ih => exact effect.trans (hs.embed hp.1 path st) (ih _ (hp.2 _) _)

/-- So has a hook that ran. -/
theorem Program.Has.of_runHook {s : Surroundings} (hs : s.Has effect embeds) {p : Program α}
    (hp : p.Has effect embeds) {hook : Hook} {tag : Tag}
    {result : Except RenderError α → HookResult} {st st₁ : RenderState}
    {answer : Except RenderError α} (hrun : p.runHook s hook tag result st = (answer, st₁)) :
    effect.rel st.scope st₁.scope := by
  have hst : st₁ = (p.runHook s hook tag result st).2 := by rw [hrun]
  have hprogram := hp.run hs (st.note (.hookBegins hook tag st.depth st.includeDepth))
  rw [RenderState.scope_note] at hprogram
  rw [hst]
  show effect.rel st.scope (RenderState.note _ _).scope
  rw [RenderState.scope_note]
  exact hprogram

/-! ## Tags -/

/-- All hooks of the handler have the effect at a tag. -/
structure Handler.Has (effect : Effect) (embeds : Prop) (h : Handler) (e : Element) : Prop where
  guard : (h.guard e).Has effect embeds
  enter : (h.enter e).Has effect embeds
  body : (h.body e).Has effect embeds
  exit : ∀ text, (h.exit e text).Has effect embeds

namespace Handler.Has

variable {s : Surroundings} {h : Handler} {e : Element}

/-- What has the effect so far has it after each hook. -/
theorem keeps (hh : h.Has effect embeds e) (hs : s.Has effect embeds) (before : Scope) :
    h.Keeps (fun st => effect.rel before st.scope) e s where
  guard hst hrun := effect.trans hst (hh.guard.of_runHook hs hrun)
  enter hst hrun := effect.trans hst (hh.enter.of_runHook hs hrun)
  body {st _ st₁} hst hrun := by
    have hinside : effect.rel (h.inBody st).scope st₁.scope := hh.body.of_runHook hs hrun
    exact effect.trans hst hinside
  exit hst hrun := effect.trans hst ((hh.exit _).of_runHook hs hrun)

/-- So an activation has the effect; a block that is refused changes nothing. -/
theorem activateWithin (hh : h.Has effect embeds e) (hs : s.Has effect embeds)
    (st : RenderState) : effect.rel st.scope (h.activateWithin e s st).state.scope := by
  refine activateWithin_cases (fun _ => ?_) fun _ => effect.refl _
  have hopened : effect.rel st.scope (st.inside e).scope := effect.refl _
  have hafter := (hh.keeps hs st.scope).activate hopened
  show effect.rel st.scope (RenderState.outside _ e).scope
  rw [RenderState.scope_outside]
  exact hafter

end Handler.Has

/-- The registry has the effect at a tag: the handler of its name has, whatever the tag encloses. -/
def Registry.HasAt (r : Registry) (effect : Effect) (embeds : Prop) (tag : Tag) : Prop :=
  ∀ h, r.get? tag.name = some h → ∀ body, h.Has effect embeds ⟨tag, body⟩

/-! ## Walking a tree -/

/-- The walk has the effect. -/
def Walker.Has (effect : Effect) (walk : Walker) : Prop :=
  ∀ chain out st, effect.rel st.scope (walk chain out st).state.scope

theorem Walker.Has.pass {walk : Walker} (h : walk.Has effect) :
    Render.Has effect (Setting.pass walk) := by
  intro st
  have hwalk := h none "" (st.note .passBegins)
  rw [RenderState.scope_note] at hwalk
  show effect.rel st.scope (RenderState.note _ _).scope
  rw [RenderState.scope_note]
  exact hwalk

namespace Setting

variable {s : Setting}

theorem visit_has (hembed : embeds → ∀ path, Render.Has effect (s.embed path)) {e : Element}
    (htag : s.registry.HasAt effect embeds e.tag) {region : Region → Render}
    (hregion : ∀ r, Render.Has effect (region r)) (chain : Chain) (out : String)
    (st : RenderState) : effect.rel st.scope (s.visit e region chain out st).state.scope := by
  have hs : Surroundings.Has effect embeds ⟨s.limits, region, s.embed⟩ := ⟨hregion, hembed⟩
  exact visit_state_cases (effect.refl _) fun h hname =>
    (htag h hname e.body).activateWithin hs st

/-- The walk over some siblings has the effect if the registry has it at their tags. -/
theorem walk_has (hembed : embeds → ∀ path, Render.Has effect (s.embed path)) (nodes : List Node)
    (htags : AllTagsOf (fun _ tag => s.registry.HasAt effect embeds tag) nodes) :
    Walker.Has effect (s.walk nodes) := by
  induction nodes using siblings_induction with
  | nil => exact fun _ _ _ => effect.refl _
  | text text rest ih => exact fun _ _ st => ih htags.2 _ _ st
  | interpolation expression span rest ih => exact fun _ _ st => ih htags.2 _ _ st
  | tag e rest hrows ih =>
    intro chain out st
    -- all that the tag can have rendered is inside it, and so are its tags
    obtain ⟨htag, hchildren⟩ := Element.allTags_node.mp htags.1
    have hvisit := visit_has hembed htag (fun region =>
      (hrows region (hchildren.row region)).pass) chain out st
    rw [walk_tag]
    cases hstep : s.visit e (fun region => pass (s.walk (e.row region))) chain out st with
    | goesOn after out' st₁ =>
      rw [hstep] at hvisit
      exact effect.trans hvisit (ih htags.2 after out' st₁)
    | ends w =>
      rw [hstep] at hvisit
      exact hvisit

end Setting

/-! ## Templates -/

namespace Engine

theorem renderOpened_has {walk : Walker} (h : walk.Has effect) :
    Render.Has effect (renderOpened walk) := by
  intro st
  exact h.pass { st with interpolating := false, includeDepth := st.includeDepth + 1 }

/-- Includes have the effect if the registry has it at every tag. -/
theorem embed_has (engine : Engine) (htag : ∀ tag, engine.registry.HasAt effect True tag)
    (budget : Nat) (path : String) : Render.Has effect (engine.embed budget path) := by
  induction budget generalizing path with
  | zero => exact fun _ => effect.refl _
  | succ budget ih =>
    intro st
    rw [embed]
    split
    · exact effect.refl _
    · split
      · exact effect.refl _
      · next template _ =>
        have hwalk : Walker.Has effect (Setting.walk ⟨engine.registry, engine.limits,
          engine.embed budget⟩ template.nodes) :=
          Setting.walk_has (fun _ => ih) template.nodes
            (allTagsOf_of_forall (fun _ => htag) template.nodes)
        exact renderOpened_has hwalk st

/-- A whole render has the effect, however it ends, if the registry has it at every tag. -/
theorem run_has (engine : Engine) (htag : ∀ tag, engine.registry.HasAt effect True tag)
    (template : Template) : Render.Has effect (engine.run template) := by
  have hwalk : Walker.Has effect (engine.setting.walk template.nodes) :=
    Setting.walk_has (fun _ => engine.embed_has htag _) template.nodes
      (allTagsOf_of_forall (fun _ => htag) template.nodes)
  exact hwalk.pass

/-- Without includes the registry must only have it at the tags of the template. -/
theorem run_has_of_tags (engine : Engine) (template : Template)
    (htags : AllTagsOf (fun _ tag => engine.registry.HasAt effect False tag) template.nodes) :
    Render.Has effect (engine.run template) := by
  have hwalk : Walker.Has effect (engine.setting.walk template.nodes) :=
    Setting.walk_has (fun h => h.elim) template.nodes htags
  exact hwalk.pass

end Engine

end TagTemplate
