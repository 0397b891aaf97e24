import TagTemplate.Proofs.Render.Coupling
import TagTemplate.Proofs.Render.Rows

/-!
# Two walks side by side

What a coupling says of two runs of a program it says of two walks over the same tree: they take the
same steps and come to the same (`Coupling.walk`), as long as this holds of what is included.
-/

namespace TagTemplate.Coupling

variable {limits : Limits} {c : Coupling limits} {b b' : Books} {st st' : RenderState}

/-! ## Steps and walks -/

/-- What a walk comes to in the two runs. -/
structure Walks (c : Coupling limits) (b b' : Books) (w w' : Walk) : Prop where
  out : w'.out = w.out
  outcome : w'.outcome = w.outcome
  state : c.At b b' w.state w'.state

/-- Walks that come to the same. -/
def Walkers (c : Coupling limits) (b b' : Books) (walk walk' : Walker) : Prop :=
  ∀ chain out st st', c.At b b' st st' → c.Binds (walk chain out st).outcome →
    c.Walks b b' (walk chain out st) (walk' chain out st')

/-- A walk that goes on after a step comes to the same when the step and the rest do. -/
theorem Walkers.andThen {step step' : Step} {rest rest' : Walker}
    (hrest : c.Walkers b b' rest rest')
    (h : (c.forgiving = true → step.isOk = true) → Step.Related (c.At b b') step step')
    (hbinds : c.Binds (step.andThen rest).outcome) :
    c.Walks b b' (step.andThen rest) (step'.andThen rest') := by
  cases h fun hforgiving => Step.isOk_of_andThen (hbinds hforgiving) with
  | goesOn hat => exact hrest _ _ _ _ hat hbinds
  | ends hat => exact ⟨rfl, rfl, hat⟩

/-- A pass comes to the same when the walk does. -/
theorem Walkers.pass {walk walk' : Walker} (h : c.Walkers b b' walk walk') :
    c.Renders b b' (Setting.pass walk) (Setting.pass walk') := by
  intro st st' hat hbinds
  obtain ⟨hout, houtcome, hstate⟩ := h none "" _ _ (hat.note .passBegins rfl) hbinds
  refine ⟨?_, ?_⟩
  · show Rendered.mk _ _ = Rendered.mk _ _
    rw [hout, houtcome]
  · show c.At b b' _ (RenderState.note _ (.passEnds _))
    rw [houtcome]
    exact hstate.note _ rfl

/-! ## Visits -/

variable {r : Registry} {region region' : Region → Render} {embed embed' : String → Render}
  {around inside : Request → Prop}

/-- Where failures are forgiven, no handler recovers from one. -/
def Passing (c : Coupling limits) (r : Registry) : Prop :=
  c.forgiving = true → ∀ name h, r.get? name = some h → h.CarriesOver limits limits

/-- The visit of a tag comes to the same when what its handler has rendered does. -/
theorem visit (hr : c.Passing r) (e : Element)
    (hasks : ∀ h, r.get? e.tag.name = some h → h.Asks e around inside)
    (hsurrounds : ∀ h, r.get? e.tag.name = some h →
      (e.body.isSome = true → b.depth < limits.maxDepth) →
      c.Surrounds (e.within b) (e.within b') around ⟨limits, region, embed⟩
        ⟨limits, region', embed'⟩ ∧
      c.Surrounds ((e.within b).inside h) ((e.within b').inside h) inside ⟨limits, region, embed⟩
        ⟨limits, region', embed'⟩)
    (hat : c.At b b' st st') (chain : Chain) (out : String)
    (hok : c.forgiving = true →
      (Setting.visit ⟨r, limits, embed⟩ e region chain out st).isOk = true) :
    Step.Related (c.At b b') (Setting.visit ⟨r, limits, embed⟩ e region chain out st)
      (Setting.visit ⟨r, limits, embed'⟩ e region' chain out st') := by
  have hactivation : ∀ h, r.get? e.tag.name = some h →
      FailsOnly (fun _ => c.forgiving = false)
        (h.activateWithin e ⟨limits, region, embed⟩ st).outcome →
      Activation.Related (c.At b b') (h.activateWithin e ⟨limits, region, embed⟩ st)
        (h.activateWithin e ⟨limits, region', embed'⟩ st') := by
    intro h hname hfails
    have hh : c.forgiving = true → h.CarriesOver limits limits :=
      fun hforgiving => hr hforgiving _ h hname
    exact activateWithin hh (hasks h hname) (hsurrounds h hname) hat (binds_iff.mpr hfails)
  have hkind : (Setting.visit ⟨r, limits, embed⟩ e region chain out st).FailsOnly
      fun _ => c.forgiving = false := by
    cases hstep : Setting.visit ⟨r, limits, embed⟩ e region chain out st with
    | goesOn => exact trivial
    | ends w =>
      rw [hstep] at hok
      exact binds_iff.mp hok
  refine Setting.visit_related ?_ rfl rfl hactivation hat chain out hkind
  rfl

/-! ## The same tree -/

/-- Includes come to the same where so many are open. -/
def Embeds (c : Coupling limits) (includes : Nat) (embed embed' : String → Render) : Prop :=
  ∀ b b', c.books b b' → b.includeDepth = includes →
    ∀ path, c.Renders b b' (embed path) (embed' path)

variable {includes : Nat}

/-- The visit of a tag among the nodes of the same tree in both runs. -/
theorem visitSame (hr : c.Passing r) (hembed : c.Embeds includes embed embed')
    (hregion : ∀ b b', c.books b b' → b.includeDepth = includes →
      ∀ asked, c.Renders b b' (region asked) (region' asked)) (e : Element) (chain : Chain)
    (out : String) (hincludes : b.includeDepth = includes) (hat : c.At b b' st st')
    (hok : c.forgiving = true →
      (Setting.visit ⟨r, limits, embed⟩ e region chain out st).isOk = true) :
    Step.Related (c.At b b') (Setting.visit ⟨r, limits, embed⟩ e region chain out st)
      (Setting.visit ⟨r, limits, embed'⟩ e region' chain out st') := by
  refine visit hr e (fun h _ => h.asks_anything e) (fun h _ hroom => ?_) hat chain out hok
  have hwithin : c.books (e.within b) (e.within b') := by
    rcases e with ⟨tag, _ | children⟩
    · exact hat.books
    · exact c.opened hat.books (hroom rfl)
  have hinside : c.books ((e.within b).inside h) ((e.within b').inside h) := by
    unfold Books.inside
    rw [(c.same_view hwithin).1]
    exact c.interpolate hwithin _
  have hincludes' : (e.within b).includeDepth = includes := by
    rcases e with ⟨tag, _ | children⟩
    · exact hincludes
    · exact hincludes
  exact ⟨⟨fun asked _ => hregion _ _ hwithin hincludes' asked,
      fun path _ => hembed _ _ hwithin hincludes' path⟩,
    ⟨fun asked _ => hregion _ _ hinside hincludes' asked,
      fun path _ => hembed _ _ hinside hincludes' path⟩⟩

/-- The walk over some siblings comes to the same in both runs. -/
theorem walk (hr : c.Passing r) (hembed : c.Embeds includes embed embed') (nodes : List Node)
    (b b' : Books) (hbooks : c.books b b') (hincludes : b.includeDepth = includes) :
    c.Walkers b b' (Setting.walk ⟨r, limits, embed⟩ nodes)
      (Setting.walk ⟨r, limits, embed'⟩ nodes) := by
  induction nodes using siblings_induction generalizing b b' with
  | nil => exact fun _ _ _ _ hat _ => ⟨rfl, rfl, hat⟩
  | text text rest ih =>
    exact fun _ _ st st' hat hbinds => ih b b' hbooks hincludes _ _ st st' hat hbinds
  | interpolation expression span rest ih =>
    intro chain out st st' hat hbinds
    have hsame : st'.interpolation expression = st.interpolation expression := by
      unfold RenderState.interpolation
      rw [hat.interpolating_eq, hat.scope]
    rw [Setting.walk, Setting.node] at hbinds
    rw [Setting.walk, Setting.node, Setting.walk, Setting.node, hsame]
    exact ih b b' hbooks hincludes _ _ st st' hat hbinds
  | tag e rest hrows ih =>
    intro chain out st st' hat hbinds
    rw [Setting.walk_tag] at hbinds
    rw [Setting.walk_tag, Setting.walk_tag]
    refine (ih b b' hbooks hincludes).andThen (fun hok => ?_) hbinds
    exact visitSame hr hembed
      (fun b b' hbooks hincludes region => (hrows region b b' hbooks hincludes).pass) e chain out
      hincludes hat hok

end TagTemplate.Coupling
