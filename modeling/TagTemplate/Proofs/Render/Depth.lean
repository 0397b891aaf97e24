import TagTemplate.Proofs.Render.Bookkeeping

/-!
# Blocks within the depth limit

The renderer refuses a block when as many are open as the limit allows. It counts the blocks that it
enters, so in a tree that nests no deeper than the limit it refuses none (`walk_sparedAt`). A
handler could make up the same error by itself; the ones considered here are honest, which is to
say that they fail with it only when it comes from what they had rendered.
-/

namespace TagTemplate

variable {α : Type} {d : Nat}

/-- The error of a block that nests too deep. -/
def RenderError.isTooDeep : RenderError → Bool
  | .tooDeep _ _ => true
  | _ => false

/-- The outcome is not that a block nests too deep. -/
def Spared (outcome : Except RenderError α) : Prop :=
  ∀ e, outcome = .error e → e.isTooDeep = false

theorem spared_ok (result : α) : Spared (.ok result) := fun _ h => nomatch h

theorem spared_error {error : RenderError} (h : error.isTooDeep = false) :
    Spared (Except.error error : Except RenderError α) := by
  intro e he
  cases he
  exact h

theorem Spared.of_error {β : Type} {e : RenderError}
    (h : Spared (Except.error e : Except RenderError α)) :
    Spared (Except.error e : Except RenderError β) := spared_error (h e rfl)

/-! ## Honest programs -/

/-- A program that does not make up the error of a block that nests too deep. -/
inductive Program.Honest : Program α → Prop
  | done (result : α) : Honest (.done result)
  | fail {error : RenderError} (h : error.isTooDeep = false) : Honest (.fail error)
  | look {next : View → Program α} (h : ∀ view, Honest (next view)) : Honest (.look next)
  | update (change : Scope → Scope) {next : Program α} (h : Honest next) :
    Honest (.update change next)
  | render (region : Region) {next : Rendered → Program α}
    (h : ∀ rendered, Spared rendered.outcome → Honest (next rendered)) :
    Honest (.render region next)
  | embed (path : String) {next : Rendered → Program α}
    (h : ∀ rendered, Spared rendered.outcome → Honest (next rendered)) :
    Honest (.embed path next)

/-- A handler whose hooks are honest. -/
structure Handler.Honest (h : Handler) : Prop where
  guard : ∀ e, (h.guard e).Honest
  enter : ∀ e, (h.enter e).Honest
  body : ∀ e, (h.body e).Honest
  exit : ∀ e text, (h.exit e text).Honest

/-- A registry of honest handlers. -/
def Registry.Honest (r : Registry) : Prop := ∀ name h, r.get? name = some h → h.Honest

/-- An error that is passed on is not made up. -/
theorem Program.honest_passOn {rendered : Rendered} (h : Spared rendered.outcome) :
    (Program.passOn rendered).Honest := by
  unfold passOn
  cases ho : rendered.outcome with
  | error e => exact .fail (h e ho)
  | ok flow => exact .done _

theorem Program.Honest.rendered (region : Region) : (Program.rendered region).Honest :=
  .render region fun _ h => honest_passOn h

/-! ## Running hooks at a depth -/

/-- The render finds no block that nests too deep when so many are open. -/
def Render.SparedAt (d : Nat) (render : Render) : Prop :=
  ∀ st, st.depth = d → Spared (render st).1.outcome

/-- Surroundings that leave the books as they were, and in which nothing that is rendered nests too
deep when so many blocks are open. -/
structure Surroundings.SparedAt (d : Nat) (s : Surroundings) : Prop extends s.Restores where
  region_spared : ∀ region, Render.SparedAt d (s.region region)
  embed_spared : ∀ path, Render.SparedAt d (s.embed path)

/-- An honest program does not fail for the depth of what it has rendered. -/
theorem Program.Honest.spared_run {s : Surroundings} (hs : s.SparedAt d) {p : Program α}
    (h : p.Honest) (st : RenderState) (hd : st.depth = d) : Spared (p.run s st).1 := by
  induction h generalizing st with
  | done result => exact spared_ok result
  | fail h => exact spared_error h
  | look _ ih => exact ih _ st hd
  | update change _ ih => exact ih { st with scope := change st.scope } hd
  | render region _ ih =>
    have hdepth := congrArg Books.depth (hs.region region st)
    exact ih _ (hs.region_spared region st hd) _ (hdepth.trans hd)
  | embed path _ ih =>
    have hdepth := congrArg Books.depth (hs.embed path st)
    exact ih _ (hs.embed_spared path st hd) _ (hdepth.trans hd)

/-- So is a hook that ran. -/
theorem Program.Honest.spared_of_runHook {s : Surroundings} (hs : s.SparedAt d) {p : Program α}
    (h : p.Honest) {hook : Hook} {tag : Tag} {result : Except RenderError α → HookResult}
    {st st₁ : RenderState} {answer : Except RenderError α}
    (hrun : p.runHook s hook tag result st = (answer, st₁)) (hd : st.depth = d) :
    Spared answer := by
  have hanswer : answer = (p.runHook s hook tag result st).1 := by rw [hrun]
  have hnote := congrArg Books.depth (st.books_note (.hookBegins hook tag st.depth st.includeDepth))
  rw [hanswer]
  exact h.spared_run hs _ (hnote.trans hd)

namespace Handler.Honest

variable {s : Surroundings} {h : Handler}

theorem failsFrom (hh : h.Honest) (hs : s.SparedAt d) (e : Element) {books : Books}
    (hbooks : books.depth = d) :
    h.FailsFrom (fun error => error.isTooDeep = false) (fun st => st.books = books) e s where
  guard hst hrun :=
    (hh.guard e).spared_of_runHook hs hrun ((congrArg Books.depth hst).trans hbooks)
  enter hst hrun :=
    (hh.enter e).spared_of_runHook hs hrun ((congrArg Books.depth hst).trans hbooks)
  body hst hrun :=
    (hh.body e).spared_of_runHook hs hrun ((congrArg Books.depth hst).trans hbooks)
  exit hst hrun :=
    (hh.exit e _).spared_of_runHook hs hrun ((congrArg Books.depth hst).trans hbooks)

/-- An activation is spared when all that it renders is, and when there is room for the tag. -/
theorem spared_activateWithin (hh : h.Honest) {e : Element} {st : RenderState}
    (hd : e.depthInside st.depth = d) (hfits : e.Fits s.limits st) (hs : s.SparedAt d) :
    Spared (h.activateWithin e s st).outcome := by
  rw [activateWithin_of_fits hfits]
  have hopened : (st.inside e).books.depth = d := hd
  exact (keeps_books hs.toRestores e _).failsOnly_activate (hh.failsFrom hs e hopened) rfl

end Handler.Honest

/-! ## Walking a tree -/

/-- The walk finds no block that nests too deep when so many are open. -/
def Walker.SparedAt (d : Nat) (walk : Walker) : Prop :=
  ∀ chain out st, st.depth = d → Spared (walk chain out st).outcome

/-- The row does not end for a block that nests too deep. -/
def Step.Spared : Step → Prop
  | .goesOn _ _ _ => True
  | .ends walk => TagTemplate.Spared walk.outcome

theorem Walker.SparedAt.pass {walk : Walker} (h : walk.SparedAt d) :
    Render.SparedAt d (Setting.pass walk) := by
  intro st hd
  have hnote := congrArg Books.depth (st.books_note .passBegins)
  exact h none "" _ (hnote.trans hd)

/-- A setting with honest handlers, in which includes leave the books as they were and do not nest
too deep. -/
structure Setting.Honest (s : Setting) : Prop where
  registry : s.registry.Honest
  embed : ∀ path, Render.Restores (s.embed path)
  embed_spared : ∀ path st, Spared (s.embed path st).1.outcome

namespace Setting

variable {s : Setting}

/-- The surroundings of a tag whose regions are restored and spared. -/
theorem Honest.surroundings (hs : s.Honest) {region : Region → Render}
    (hrestores : ∀ r, Render.Restores (region r))
    (hspared : ∀ r, Render.SparedAt d (region r)) :
    Surroundings.SparedAt d ⟨s.limits, region, s.embed⟩ where
  region := hrestores
  embed := hs.embed
  region_spared := hspared
  embed_spared := fun path st _ => hs.embed_spared path st

theorem visit_spared (hs : s.Honest) {e : Element} {region : Region → Render} {st : RenderState}
    (hfits : e.Fits s.limits st)
    (hsurroundings : Surroundings.SparedAt (e.depthInside st.depth) ⟨s.limits, region, s.embed⟩)
    (chain : Chain) (out : String) : (s.visit e region chain out st).Spared :=
  failsOnly_visit (fun _ => rfl) rfl fun h hname =>
    (hs.registry _ h hname).spared_activateWithin rfl hfits hsurroundings

/-- No block among siblings that nest within the limit is refused. -/
theorem walk_sparedAt (hs : s.Honest) (nodes : List Node)
    (hheight : d + heightAll nodes ≤ s.limits.maxDepth) : Walker.SparedAt d (s.walk nodes) := by
  induction nodes using siblings_induction generalizing d with
  | nil => exact fun _ _ _ _ => spared_ok _
  | text text rest ih =>
    rw [heightAll] at hheight
    exact fun _ _ st hd => ih (by omega) _ _ st hd
  | interpolation expression span rest ih =>
    rw [heightAll] at hheight
    exact fun _ _ st hd => ih (by omega) _ _ st hd
  | tag e rest hrows ih =>
    intro chain out st hd
    rw [heightAll] at hheight
    have hinside := e.heightAll_row_le
    have hdepth : e.depthInside st.depth = d + e.body.isSome.toNat := by
      rw [hd, e.depthInside_eq]
    have hsurroundings : Surroundings.SparedAt (e.depthInside st.depth)
        ⟨s.limits, fun region => pass (s.walk (e.row region)), s.embed⟩ := by
      refine hs.surroundings (fun _ => (walk_restores hs.embed _).pass) fun region => ?_
      have hrow := hinside region
      exact (hrows region (by omega)).pass
    have hfits : e.Fits s.limits st := by
      intro hblock
      have hrow := hinside .body
      rw [hblock, Bool.toNat_true] at hrow
      omega
    have hvisit := visit_spared hs hfits hsurroundings chain out
    have hbooks := books_node hs.embed e.node chain out st
    rw [node_tag] at hbooks
    rw [walk_tag]
    cases hstep : s.visit e (fun region => pass (s.walk (e.row region))) chain out st with
    | goesOn chain' out' st' =>
      rw [hstep] at hbooks
      have hdepth := congrArg Books.depth hbooks
      exact ih (by omega) chain' out' st' (hdepth.trans hd)
    | ends w =>
      rw [hstep] at hvisit
      exact hvisit

end Setting

end TagTemplate
