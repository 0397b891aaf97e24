import TagTemplate.Proofs.Render.Coupling

/-!
# What the journal says

The journal of a watched render says of each hook how many blocks and how many includes were open
when it began. A render notes nothing but what is true of the place at which it renders, if that
holds of all that it renders in turn. This is said here for programs, hooks and activations, up to
the visit of a tag, whatever there is to be true of events.
-/

namespace TagTemplate

variable {α : Type} {good : Event → Prop} {depth includes : Nat} {st : RenderState}

/-- So many blocks and includes are open, and all that is in the journal is good. -/
structure RenderState.Tells (good : Event → Prop) (depth includes : Nat) (st : RenderState) :
    Prop where
  depth : st.depth = depth
  includes : st.includeDepth = includes
  journal : ∀ event ∈ st.journal.getD [], good event

theorem RenderState.Tells.note (h : st.Tells good depth includes) {event : Event}
    (hevent : good event) : (st.note event).Tells good depth includes where
  depth := (congrArg Books.depth (st.books_note event)).trans h.depth
  includes := (congrArg Books.includeDepth (st.books_note event)).trans h.includes
  journal := by
    rw [st.journal_note]
    cases hjournal : st.journal with
    | none => exact List.forall_mem_nil _
    | some events =>
      have hevents := h.journal
      rw [hjournal] at hevents
      exact List.forall_mem_cons.mpr ⟨hevent, hevents⟩

/-- What is rendered from such a state leaves one of the kind. -/
def Render.Tells (good : Event → Prop) (depth includes : Nat) (render : Render) : Prop :=
  ∀ st : RenderState, st.Tells good depth includes → (render st).2.Tells good depth includes

/-- All that is rendered in some surroundings does so. -/
structure Surroundings.Tells (good : Event → Prop) (depth includes : Nat) (s : Surroundings) :
    Prop where
  region : ∀ region, Render.Tells good depth includes (s.region region)
  embed : ∀ path, Render.Tells good depth includes (s.embed path)

/-- What may be noted beside the beginnings of hooks. -/
def SettledGood (good : Event → Prop) : Prop := ∀ event : Event, event.isSettled = true → good event

variable {s : Surroundings}

theorem Program.run_tells (hs : s.Tells good depth includes) (p : Program α)
    (hst : st.Tells good depth includes) : (p.run s st).2.Tells good depth includes := by
  induction p generalizing st with
  | done result => exact hst
  | fail error => exact hst
  | look next ih => exact ih _ hst
  | update change next ih => exact ih ⟨hst.depth, hst.includes, hst.journal⟩
  | render region next ih => exact ih _ (hs.region region st hst)
  | embed path next ih => exact ih _ (hs.embed path st hst)

/-- A hook notes where it begins, and what it comes to. -/
theorem Program.tells_of_runHook (hgood : SettledGood good) (hs : s.Tells good depth includes)
    {p : Program α} {hook : Hook} {tag : Tag} {result : Except RenderError α → HookResult}
    {st₁ : RenderState} {answer : Except RenderError α}
    (hbegins : good (.hookBegins hook tag depth includes))
    (hrun : p.runHook s hook tag result st = (answer, st₁)) (hst : st.Tells good depth includes) :
    st₁.Tells good depth includes := by
  have hafter : st₁ = (p.runHook s hook tag result st).2 := by rw [hrun]
  have hbegun : (st.note (.hookBegins hook tag st.depth st.includeDepth)).Tells good depth
      includes := by
    rw [hst.depth, hst.includes]
    exact hst.note hbegins
  rw [hafter]
  exact (p.run_tells hs hbegun).note (hgood _ rfl)

namespace Handler

variable {h : Handler} {e : Element}

/-- A hook leaves such a state when it has noted where it begins, and what it has rendered. -/
theorem keeps_tells (hgood : SettledGood good) (hs : s.Tells good depth includes)
    (hbegins : ∀ hook, good (.hookBegins hook e.tag depth includes)) :
    h.Keeps (RenderState.Tells good depth includes) e s where
  guard hst hrun := Program.tells_of_runHook hgood hs (hbegins _) hrun hst
  enter hst hrun := Program.tells_of_runHook hgood hs (hbegins _) hrun hst
  body {st _ _} hst hrun := by
    have hinside : (h.inBody st).Tells good depth includes :=
      ⟨hst.depth, hst.includes, hst.journal⟩
    have hafter := Program.tells_of_runHook hgood hs (hbegins _) hrun hinside
    exact ⟨hafter.depth, hafter.includes, hafter.journal⟩
  exit hst hrun := Program.tells_of_runHook hgood hs (hbegins _) hrun hst

/-- A block is one more that is open in its hooks, and closed after them. -/
theorem activateWithin_tells (hgood : SettledGood good)
    (hs : s.Tells good (e.depthInside depth) includes)
    (hbegins : ∀ hook, good (.hookBegins hook e.tag (e.depthInside depth) includes))
    (hst : st.Tells good depth includes) :
    (h.activateWithin e s st).state.Tells good depth includes := by
  refine activateWithin_cases (fun _ => ?_) fun _ => hst
  have hopened : (st.inside e).Tells good (e.depthInside depth) includes :=
    ⟨congrArg e.depthInside hst.depth, hst.includes, hst.journal⟩
  have hafter := (keeps_tells hgood hs hbegins).activate (h := h) hopened
  show (RenderState.outside _ e).Tells good depth includes
  rw [RenderState.outside_of_depth hafter.depth]
  exact ⟨rfl, hafter.includes, hafter.journal⟩

end Handler

/-! ## Rows of siblings -/

/-- What is walked from such a state leaves one of the kind. -/
def Walker.Tells (good : Event → Prop) (depth includes : Nat) (walk : Walker) : Prop :=
  ∀ chain out (st : RenderState), st.Tells good depth includes →
    (walk chain out st).state.Tells good depth includes

theorem Walker.Tells.pass {walk : Walker} (hgood : SettledGood good)
    (h : walk.Tells good depth includes) :
    Render.Tells good depth includes (Setting.pass walk) := by
  intro st hst
  have hwalk := h none "" _ (hst.note (hgood .passBegins rfl))
  exact hwalk.note (hgood _ rfl)

theorem Setting.visit_tells {s : Setting} {e : Element} {region : Region → Render}
    (hgood : SettledGood good)
    (hregion : ∀ r, Render.Tells good (e.depthInside depth) includes (region r))
    (hembed : ∀ path, Render.Tells good (e.depthInside depth) includes (s.embed path))
    (hbegins : ∀ hook, good (.hookBegins hook e.tag (e.depthInside depth) includes))
    (chain : Chain) (out : String) (hst : st.Tells good depth includes) :
    (s.visit e region chain out st).state.Tells good depth includes := by
  have hs : Surroundings.Tells good (e.depthInside depth) includes ⟨s.limits, region, s.embed⟩ :=
    ⟨hregion, hembed⟩
  exact visit_state_cases hst fun _ _ => Handler.activateWithin_tells hgood hs hbegins hst

end TagTemplate
