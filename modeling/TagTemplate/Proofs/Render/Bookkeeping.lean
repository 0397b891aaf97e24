import TagTemplate.Engine
import TagTemplate.Proofs.Render.Induction
import TagTemplate.Proofs.Render.Visits

/-!
# Bookkeeping

A render carries along whether references are replaced and how many blocks and includes are open.
All of it is after a render as it was before, however the render ended and whatever the handlers
do: a hook can change the variables, but not the books. This is said of everything that renders,
from the programs of hooks up to a whole template with its includes (`run_restores`).
-/

namespace TagTemplate

/-- What must be after a render as it was before. -/
@[ext]
structure Books where
  interpolating : Bool
  depth : Nat
  includeDepth : Nat
deriving DecidableEq

namespace RenderState

/-- The books of a state. -/
def books (st : RenderState) : Books := ⟨st.interpolating, st.depth, st.includeDepth⟩

theorem note_eq (st : RenderState) (event : Event) :
    ∃ journal, st.note event = { st with journal } := by
  unfold note
  cases st.journal with
  | none => exact ⟨st.journal, rfl⟩
  | some journal => exact ⟨_, rfl⟩

/-- An entry in the journal changes nothing in the books. -/
@[simp]
theorem books_note (st : RenderState) (event : Event) : (st.note event).books = st.books := by
  obtain ⟨journal, h⟩ := st.note_eq event
  rw [h]
  rfl

/-- Nor in the variables. -/
@[simp]
theorem scope_note (st : RenderState) (event : Event) : (st.note event).scope = st.scope := by
  obtain ⟨journal, h⟩ := st.note_eq event
  rw [h]

/-- One more block is open in the hooks of a block, and one less after them. -/
theorem books_outside (st : RenderState) {st₁ : RenderState} {e : Element}
    (h : st₁.books = (st.inside e).books) : (st₁.outside e).books = st.books := by
  have hdepth : st₁.depth = e.depthInside st.depth := congrArg Books.depth h
  rw [outside_of_depth hdepth]
  have hflag := congrArg Books.interpolating h
  have hincludes := congrArg Books.includeDepth h
  exact Books.ext hflag rfl hincludes

end RenderState

/-! ## Programs -/

/-- The render leaves the books as they were. -/
def Render.Restores (render : Render) : Prop := ∀ st, (render st).2.books = st.books

/-- All that is rendered in some surroundings leaves the books as they were. -/
structure Surroundings.Restores (s : Surroundings) : Prop where
  region : ∀ region, Render.Restores (s.region region)
  embed : ∀ path, Render.Restores (s.embed path)

variable {α : Type}

/-- A program leaves the books as they were. -/
theorem Program.books_run {s : Surroundings} (hs : s.Restores) (p : Program α) (st : RenderState) :
    (p.run s st).2.books = st.books := by
  induction p generalizing st with
  | done => rfl
  | fail => rfl
  | look next ih => exact ih (st.view s.limits) st
  | update change next ih => exact ih { st with scope := change st.scope }
  | render region next ih =>
    exact (ih (s.region region st).1 (s.region region st).2).trans (hs.region region st)
  | embed path next ih =>
    exact (ih (s.embed path st).1 (s.embed path st).2).trans (hs.embed path st)

/-- A hook that ran has left the books as they were. -/
theorem Program.books_of_runHook {s : Surroundings} (hs : s.Restores) {p : Program α} {hook : Hook}
    {tag : Tag} {result : Except RenderError α → HookResult} {st st₁ : RenderState}
    {answer : Except RenderError α} (h : p.runHook s hook tag result st = (answer, st₁)) :
    st₁.books = st.books := by
  have hst : st₁ = (p.runHook s hook tag result st).2 := by rw [h]
  rw [hst]
  show (((p.run s _).2).note _).books = _
  rw [RenderState.books_note, p.books_run hs, RenderState.books_note]

/-! ## Handlers -/

namespace Handler

variable {s : Surroundings} {h : Handler}

/-- A body may see another flag, which is put back after it. -/
theorem books_afterBody (hs : s.Restores) {e : Element} {st st₁ : RenderState}
    {answer : Except RenderError (String × Flow)}
    (hbody : (h.body e).runHook s .body e.tag .body (h.inBody st) = (answer, st₁)) :
    (st₁.afterBody st).books = st.books := by
  have hinside := Program.books_of_runHook hs hbody
  have hdepth := congrArg Books.depth hinside
  have hincludes := congrArg Books.includeDepth hinside
  exact Books.ext rfl hdepth hincludes

/-- The hooks of a tag leave the books as they were. -/
theorem keeps_books (hs : s.Restores) (e : Element) (books : Books) :
    h.Keeps (fun st => st.books = books) e s where
  guard hst hrun := (Program.books_of_runHook hs hrun).trans hst
  enter hst hrun := (Program.books_of_runHook hs hrun).trans hst
  body hst hrun := (books_afterBody hs hrun).trans hst
  exit hst hrun := (Program.books_of_runHook hs hrun).trans hst

theorem books_activate (hs : s.Restores) (e : Element) (st : RenderState) :
    (h.activate e s st).state.books = st.books := (keeps_books hs e st.books).activate rfl

/-- A block that was opened is closed again. -/
theorem books_activateWithin (h : Handler) (hs : s.Restores) (e : Element) (st : RenderState) :
    (h.activateWithin e s st).state.books = st.books := by
  refine activateWithin_cases (fun _ => ?_) fun _ => rfl
  exact st.books_outside (books_activate hs e (st.inside e))

end Handler

/-! ## Walking a tree -/

/-- The walk leaves the books as they were. -/
def Walker.Restores (walk : Walker) : Prop :=
  ∀ chain out st, (walk chain out st).state.books = st.books

theorem Walker.Restores.pass {walk : Walker} (h : walk.Restores) :
    Render.Restores (Setting.pass walk) := by
  intro st
  show (RenderState.note _ _).books = _
  rw [RenderState.books_note, h, RenderState.books_note]

namespace Setting

variable {s : Setting}

theorem books_visit (hembed : ∀ path, Render.Restores (s.embed path)) {region : Region → Render}
    (hregion : ∀ r, Render.Restores (region r)) (e : Element) (chain : Chain) (out : String)
    (st : RenderState) : (s.visit e region chain out st).state.books = st.books := by
  have hs : Surroundings.Restores ⟨s.limits, region, s.embed⟩ := ⟨hregion, hembed⟩
  exact visit_state_cases rfl fun h _ => h.books_activateWithin hs e st

/-- The walk over some siblings leaves the books as they were. -/
theorem walk_restores (hembed : ∀ path, Render.Restores (s.embed path)) (nodes : List Node) :
    Walker.Restores (s.walk nodes) := by
  induction nodes using siblings_induction with
  | nil => exact fun _ _ _ => rfl
  | text text rest ih => exact fun _ _ st => ih _ _ st
  | interpolation expression span rest ih => exact fun _ _ st => ih _ _ st
  | tag e rest hrows ih =>
    intro chain out st
    have hvisit := books_visit hembed (fun region => (hrows region).pass) e chain out st
    rw [walk_tag]
    cases hstep : s.visit e (fun region => pass (s.walk (e.row region))) chain out st with
    | goesOn after out' st₁ =>
      rw [hstep] at hvisit
      exact (ih after out' st₁).trans hvisit
    | ends w =>
      rw [hstep] at hvisit
      exact hvisit

/-- So does the step over one of them. -/
theorem books_node (hembed : ∀ path, Render.Restores (s.embed path)) (node : Node) (chain : Chain)
    (out : String) (st : RenderState) : (s.node node chain out st).state.books = st.books := by
  have hvisit (e : Element) : (s.node e.node chain out st).state.books = st.books := by
    rw [node_tag]
    exact books_visit hembed (fun _ => (walk_restores hembed _).pass) e chain out st
  cases node with
  | text => rfl
  | interpolation => rfl
  | void tag => exact hvisit ⟨tag, none⟩
  | block tag children => exact hvisit ⟨tag, some children⟩

end Setting

/-! ## Includes -/

namespace Engine

/-- An include that was opened is closed again, and the flag is put back. -/
theorem renderOpened_restores {walk : Walker} (h : walk.Restores) :
    Render.Restores (renderOpened walk) := by
  intro st
  have hopened := h.pass { st with interpolating := false, includeDepth := st.includeDepth + 1 }
  have hdepth := congrArg Books.depth hopened
  have hincludes := congrArg Books.includeDepth hopened
  exact Books.ext rfl hdepth (congrArg (· - 1) hincludes)

/-- Includes leave the books as they were. -/
theorem embed_restores (engine : Engine) (budget : Nat) (path : String) :
    Render.Restores (engine.embed budget path) := by
  induction budget generalizing path with
  | zero => exact fun _ => rfl
  | succ budget ih =>
    intro st
    rw [embed]
    split
    · rfl
    · split
      · rfl
      · next template _ =>
        have hwalk : Walker.Restores (Setting.walk ⟨engine.registry, engine.limits,
          engine.embed budget⟩ template.nodes) := Setting.walk_restores ih template.nodes
        exact renderOpened_restores hwalk st

/-- A whole render leaves the books as they were, however it ends. -/
theorem run_restores (engine : Engine) (template : Template) :
    Render.Restores (engine.run template) :=
  (Setting.walk_restores (engine.embed_restores _) template.nodes).pass

end Engine

end TagTemplate
