import TagTemplate.Proofs.Render.Bookkeeping
import TagTemplate.Proofs.Render.Limits
import TagTemplate.Proofs.Tree.Relocation

/-!
# The same tree elsewhere

Of a span a render sees no more than the line; only the journal has the tags themselves. Without a
journal a tree comes to the same with other spans in the same lines, if the handlers see no more of
a span either (`Setting.walk_relocate`). So do two tags that are written differently, if their
handler reacts to both of them in the same way (`Setting.visit_alike`).
-/

namespace TagTemplate

variable {α : Type}

/-! ## Programs -/

/-- Without a journal the two renders come to the same, and there is none after them. -/
def Render.Alike (render render' : Render) : Prop :=
  ∀ st, st.journal = none → render' st = render st ∧ (render st).2.journal = none

theorem Render.Alike.symm {render render' : Render} (h : Render.Alike render render') :
    Render.Alike render' render := by
  intro st hst
  obtain ⟨hsame, hafter⟩ := h st hst
  rw [hsame]
  exact ⟨rfl, hafter⟩

theorem Render.Alike.trans {render render' render'' : Render} (h : Render.Alike render render')
    (h' : Render.Alike render' render'') : Render.Alike render render'' := by
  intro st hst
  obtain ⟨hsame, hafter⟩ := h st hst
  exact ⟨(h' st hst).1.trans hsame, hafter⟩

/-- Surroundings in which requests come to the same. -/
structure Surroundings.Alike (s s' : Surroundings) : Prop where
  limits : s'.limits = s.limits
  region : ∀ region, Render.Alike (s.region region) (s'.region region)
  embed : ∀ path, Render.Alike (s.embed path) (s'.embed path)

variable {s s' : Surroundings} {st : RenderState}

theorem RenderState.note_of_none (h : st.journal = none) (event : Event) : st.note event = st := by
  rw [note, h]

/-- A program comes to the same. -/
theorem Program.run_alike (hs : s.Alike s') (p : Program α) (hst : st.journal = none) :
    p.run s' st = p.run s st ∧ (p.run s st).2.journal = none := by
  induction p generalizing st with
  | done result => exact ⟨rfl, hst⟩
  | fail error => exact ⟨rfl, hst⟩
  | look next ih =>
    show Program.run s' (next (st.view s'.limits)) st = _ ∧ _
    rw [hs.limits]
    exact ih _ hst
  | update change next ih => exact ih hst
  | render region next ih =>
    obtain ⟨hsame, hafter⟩ := hs.region region st hst
    rw [run_render, run_render, hsame]
    exact ih _ hafter
  | embed path next ih =>
    obtain ⟨hsame, hafter⟩ := hs.embed path st hst
    rw [run_embed, run_embed, hsame]
    exact ih _ hafter

/-- So does a hook, whatever its tag. -/
theorem Program.runHook_alike (hs : s.Alike s') {p : Program α} {hook : Hook} {tag : Tag}
    {result : Except RenderError α → HookResult} {answer : Except RenderError α}
    {st₁ : RenderState} (tag' : Tag) (hst : st.journal = none)
    (hrun : p.runHook s hook tag result st = (answer, st₁)) :
    p.runHook s' hook tag' result st = (answer, st₁) ∧ st₁.journal = none := by
  obtain ⟨hsame, hafter⟩ := p.run_alike hs hst
  have hplain : ∀ (s₁ : Surroundings) (tag₁ : Tag), p.run s₁ st = p.run s st →
      p.runHook s₁ hook tag₁ result st = p.run s st := by
    intro s₁ tag₁ hrun₁
    rw [runHook, RenderState.note_of_none hst, hrun₁]
    show (_, RenderState.note _ _) = _
    rw [RenderState.note_of_none hafter]
  rw [hplain s tag rfl] at hrun
  rw [hplain s' tag' hsame, hrun]
  rw [hrun] at hafter
  exact ⟨rfl, hafter⟩

/-! ## Handlers -/

namespace Handler

variable {h : Handler} {e e' : Element}

/-- The hooks of a tag come to the same, and begin no journal. -/
theorem SameHooks.sameRun (hooks : h.SameHooks e e') (hs : s.Alike s') :
    h.SameRun (fun _ => True) (fun st st' => st' = st ∧ st.journal = none) e e' s s' where
  guard := by
    rintro _ st answer st₁ ⟨rfl, hst⟩ hrun -
    rw [hooks.guard]
    obtain ⟨hrun', hafter⟩ := Program.runHook_alike hs e'.tag hst hrun
    exact ⟨st₁, hrun', rfl, hafter⟩
  enter := by
    rintro _ st answer st₁ ⟨rfl, hst⟩ hrun -
    rw [hooks.enter]
    obtain ⟨hrun', hafter⟩ := Program.runHook_alike hs e'.tag hst hrun
    exact ⟨st₁, hrun', rfl, hafter⟩
  body := by
    rintro _ st answer st₁ ⟨rfl, hst⟩ hrun -
    have hinside : (h.inBody st).journal = none := hst
    rw [hooks.body]
    obtain ⟨hrun', hafter⟩ := Program.runHook_alike hs e'.tag hinside hrun
    exact ⟨st₁, hrun', rfl, hafter⟩
  exit := by
    rintro text _ st answer st₁ ⟨rfl, hst⟩ hrun -
    rw [hooks.exit]
    obtain ⟨hrun', hafter⟩ := Program.runHook_alike hs e'.tag hst hrun
    exact ⟨st₁, hrun', rfl, hafter⟩

/-- So the activation does. -/
theorem activate_alike (hooks : h.SameHooks e e') (hs : s.Alike s') (hst : st.journal = none) :
    h.activate e' s' st = h.activate e s st ∧ (h.activate e s st).state.journal = none := by
  have hboth := (hooks.sameRun hs).activate ⟨rfl, hst⟩ fun _ _ => trivial
  exact ⟨hboth.eq hboth.state.1, hboth.state.2⟩

end Handler

/-- Two tags that are visited in the same way: with one name and one line, both of them with a body
or neither, and with a handler that does not tell them apart. -/
structure Registry.SameVisit (r : Registry) (e e' : Element) : Prop where
  name : e'.tag.name = e.tag.name
  line : e'.tag.span.line = e.tag.span.line
  body : e'.body.isSome = e.body.isSome
  hooks : ∀ h, r.get? e.tag.name = some h → h.SameHooks e e'

/-- Within the limit, too. -/
theorem Handler.activateWithin_alike {h : Handler} {e e' : Element} (hooks : h.SameHooks e e')
    (hline : e'.tag.span.line = e.tag.span.line) (hbody : e'.body.isSome = e.body.isSome)
    (hs : s.Alike s') (hst : st.journal = none) :
    h.activateWithin e' s' st = h.activateWithin e s st ∧
      (h.activateWithin e s st).state.journal = none := by
  have hopened : ({ st with depth := st.depth + 1 } : RenderState).journal = none := hst
  obtain ⟨hsame, hafter⟩ := activate_alike hooks hs hopened
  rcases e with ⟨tag, _ | children⟩ <;> rcases e' with ⟨tag', _ | children'⟩
  · exact activate_alike hooks hs hst
  · cases hbody
  · cases hbody
  · have hline' : tag'.span.line = tag.span.line := hline
    simp only [activateWithin, hs.limits, hline', hsame]
    split
    · exact ⟨trivial, hst⟩
    · exact ⟨trivial, hafter⟩

/-! ## Walks -/

/-- Without a journal the two walks come to the same, and there is none after them. -/
def Walker.Alike (walk walk' : Walker) : Prop :=
  ∀ chain out st, st.journal = none →
    walk' chain out st = walk chain out st ∧ (walk chain out st).state.journal = none

namespace Walker.Alike

variable {walk walk' : Walker}

theorem left (h : walk.Alike walk') : walk.Alike walk :=
  fun chain out st hst => ⟨rfl, (h chain out st hst).2⟩

/-- After a step, too. -/
theorem andThen (h : walk.Alike walk') {step : Step} (hstep : step.state.journal = none) :
    step.andThen walk' = step.andThen walk ∧ (step.andThen walk).state.journal = none := by
  cases step with
  | goesOn chain out st => exact h chain out st hstep
  | ends w => exact ⟨rfl, hstep⟩

theorem pass (h : walk.Alike walk') : Render.Alike (Setting.pass walk) (Setting.pass walk') := by
  intro st hst
  obtain ⟨hsame, hafter⟩ := h none "" st hst
  simp only [Setting.pass, RenderState.note_of_none hst, hsame, RenderState.note_of_none hafter]
  exact ⟨trivial, hafter⟩

end Walker.Alike

/-- Two settings with the same handlers and limits, in which includes come to the same. -/
structure Setting.Alike (s s' : Setting) : Prop where
  registry : s'.registry = s.registry
  limits : s'.limits = s.limits
  embed : ∀ path, Render.Alike (s.embed path) (s'.embed path)

namespace Setting

variable {s s' : Setting} {e e' : Element} {region region' : Region → Render}

/-- The visit of a tag comes to the same as that of another one. -/
theorem visit_alike (hs : s.Alike s') (he : s.registry.SameVisit e e')
    (hregion : ∀ asked, Render.Alike (region asked) (region' asked)) (chain : Chain)
    (out : String) (hst : st.journal = none) :
    s'.visit e' region' chain out st = s.visit e region chain out st ∧
      (s.visit e region chain out st).state.journal = none := by
  have hsurroundings : Surroundings.Alike ⟨s.limits, region, s.embed⟩
      ⟨s'.limits, region', s'.embed⟩ := ⟨hs.limits, hregion, hs.embed⟩
  have hregistry : s'.registry.get? e'.tag.name = s.registry.get? e.tag.name := by
    rw [hs.registry, he.name]
  have hactivation : ∀ h, s.registry.get? e.tag.name = some h →
      TagTemplate.FailsOnly (fun _ => True)
        (h.activateWithin e ⟨s.limits, region, s.embed⟩ st).outcome →
      Activation.Related (fun st st' => st' = st ∧ st.journal = none)
        (h.activateWithin e ⟨s.limits, region, s.embed⟩ st)
        (h.activateWithin e' ⟨s'.limits, region', s'.embed⟩ st) := by
    intro h hname _
    obtain ⟨hsame, hafter⟩ :=
      Handler.activateWithin_alike (he.hooks h hname) he.line he.body hsurroundings hst
    rw [hsame]
    exact ⟨rfl, rfl, rfl, hafter⟩
  have hboth : Step.Related (fun st st' => st' = st ∧ st.journal = none)
      (s.visit e region chain out st) (s'.visit e' region' chain out st) :=
    visit_related hregistry he.name he.line hactivation ⟨rfl, hst⟩ chain out
      (Step.failsOnly_true _)
  generalize s.visit e region chain out st = step at hboth ⊢
  generalize s'.visit e' region' chain out st = step' at hboth ⊢
  cases hboth with
  | goesOn h =>
    obtain ⟨rfl, hafter⟩ := h
    exact ⟨rfl, hafter⟩
  | ends h =>
    obtain ⟨rfl, hafter⟩ := h
    exact ⟨rfl, hafter⟩

end Setting

/-! ## Trees -/

/-- The element with other spans. -/
def Element.relocate (f : Span → Span) (e : Element) : Element :=
  ⟨e.tag.relocate f, e.body.map (relocateAll f)⟩

namespace Element

variable {f : Span → Span}

theorem node_relocate (e : Element) : (e.relocate f).node = e.node.relocate f := by
  rcases e with ⟨tag, _ | children⟩
  · rfl
  · rfl

theorem children_relocate (e : Element) :
    (e.relocate f).children = relocateAll f e.children := by
  rcases e with ⟨tag, _ | children⟩
  · rfl
  · rfl

/-- The rows of the element with other spans are its rows with other spans. -/
theorem row_relocate (e : Element) (region : Region) :
    (e.relocate f).row region = relocateAll f (e.row region) := by
  cases region with
  | body => exact e.children_relocate
  | bodyOfChild index =>
    rw [row, row, children_relocate, relocateAll_eq_map, List.getElem?_map]
    cases e.children[index]? with
    | none => rfl
    | some child =>
      cases child with
      | _ => rfl

end Element

/-- The handler does not see that the spans of an element are others. -/
def Handler.IgnoresPlaces (f : Span → Span) (h : Handler) : Prop :=
  ∀ e, h.SameHooks e (e.relocate f)

/-- Two such settings whose handlers do not see that spans are others. -/
structure Setting.AlikeElsewhere (f : Span → Span) (s s' : Setting) : Prop extends
    Setting.Alike s s' where
  line : ∀ span, (f span).line = span.line
  handlers : ∀ name h, s.registry.get? name = some h → h.IgnoresPlaces f

namespace Setting

variable {s s' : Setting} {f : Span → Span} {nodes nodes' : List Node}

theorem AlikeElsewhere.sameVisit (hs : s.AlikeElsewhere f s') (e : Element) :
    s.registry.SameVisit e (e.relocate f) :=
  ⟨rfl, hs.line e.tag.span, Option.isSome_map .., fun h hname => hs.handlers _ h hname e⟩

/-- The second setting is like itself. -/
theorem AlikeElsewhere.right (hs : s.AlikeElsewhere f s') : s'.AlikeElsewhere f s' where
  registry := rfl
  limits := rfl
  embed path := (hs.embed path).symm.trans (hs.embed path)
  line := hs.line
  handlers := by
    rw [hs.registry]
    exact hs.handlers

/-- The walk over some siblings comes to the same when their spans are others. -/
theorem walk_relocate (hs : s.AlikeElsewhere f s') (nodes : List Node) :
    Walker.Alike (s.walk nodes) (s'.walk (relocateAll f nodes)) := by
  induction nodes using siblings_induction with
  | nil => exact fun _ _ _ hst => ⟨rfl, hst⟩
  | text text rest ih => exact fun _ _ st hst => ih _ _ st hst
  | interpolation expression span rest ih => exact fun _ _ st hst => ih _ _ st hst
  | tag e rest hrows ih =>
    have hregion : ∀ region, Render.Alike (pass (s.walk (e.row region)))
        (pass (s'.walk ((e.relocate f).row region))) := by
      intro region
      rw [e.row_relocate]
      exact (hrows region).pass
    intro chain out st hst
    obtain ⟨hsame, hafter⟩ := visit_alike hs.toAlike (hs.sameVisit e) hregion chain out hst
    rw [relocateAll, ← e.node_relocate, walk_tag, walk_tag, hsame]
    exact ih.andThen hafter

/-- So two rows come to the same that are one row when their spans are sent elsewhere. -/
theorem pass_alike (hs : s.AlikeElsewhere f s')
    (hnodes : relocateAll f nodes' = relocateAll f nodes) :
    Render.Alike (pass (s.walk nodes)) (pass (s'.walk nodes')) := by
  have hthere := (walk_relocate hs nodes).pass
  have hback := (walk_relocate hs.right nodes').pass.symm
  rw [hnodes] at hback
  exact hthere.trans hback

/-- A block comes to the same as one with another tag and other spans in it, if the two tags do. -/
theorem block_alike (hs : s.AlikeElsewhere f s) {tag tag' : Tag} {children children' : List Node}
    (htags : s.registry.SameVisit ⟨tag, some children⟩ ⟨tag', some children'⟩)
    (hchildren : relocateAll f children' = relocateAll f children) :
    Walker.Alike (s.walk [.block tag children]) (s.walk [.block tag' children']) := by
  have hregion : ∀ region, Render.Alike (pass (s.walk (Element.row ⟨tag, some children⟩ region)))
      (pass (s.walk (Element.row ⟨tag', some children'⟩ region))) := by
    intro region
    have hsame : (Element.relocate f ⟨tag', some children'⟩).children =
        (Element.relocate f ⟨tag, some children⟩).children := hchildren
    refine pass_alike hs ?_
    rw [← Element.row_relocate, ← Element.row_relocate]
    exact Element.row_congr hsame region
  intro chain out st hst
  obtain ⟨hsame, hafter⟩ := visit_alike hs.toAlike htags hregion chain out hst
  have hwalk := s.walk_tag ⟨tag, some children⟩ [] chain out st
  have hwalk' := s.walk_tag ⟨tag', some children'⟩ [] chain out st
  rw [Element.node] at hwalk hwalk'
  rw [hwalk, hwalk', hsame]
  exact (walk_relocate hs []).andThen hafter

end Setting

end TagTemplate
