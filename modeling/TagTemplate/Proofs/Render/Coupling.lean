import TagTemplate.Proofs.Render.Bookkeeping
import TagTemplate.Proofs.Render.Limits

/-!
# Two runs side by side

Many facts about renders compare two runs: with and without a journal, inside an include and in its
place, with includes that are met in one way or another. A coupling says what the two runs may
differ in, books and journals; the variables are the same throughout. Whatever is rendered in both
runs then comes to the same in both, from the programs of hooks (`Coupling.run`) up to the walk over
a tree (`Coupling.walk`), as long as this holds of what is included.

A coupling can forgive failures. Then nothing is said of the second run when the first one fails,
and handlers must not recover from errors in what they had rendered.
-/

namespace TagTemplate

/-! ## Books -/

namespace Books

/-- The books where references are replaced or not. -/
def interpolate (b : Books) (flag : Bool) : Books := { b with interpolating := flag }

/-- The books in the body of a handler. -/
def inside (b : Books) (h : Handler) : Books :=
  b.interpolate (h.interpolation.getD b.interpolating)

/-- The books with one more block that is open. -/
def opened (b : Books) : Books := { b with depth := b.depth + 1 }

/-- The books with one more include that is open. -/
def included (b : Books) : Books := ⟨false, b.depth, b.includeDepth + 1⟩

end Books

/-- The books in the hooks of a tag. -/
def Element.within (e : Element) (b : Books) : Books :=
  match e.body with
  | none => b
  | some _ => b.opened

theorem Element.within_books (e : Element) {b : Books} {st : RenderState} (h : st.books = b) :
    e.within b = (st.inside e).books := by
  rw [← h]
  rcases e with ⟨tag, _ | children⟩
  · rfl
  · rfl

/-! ## Requests -/

/-- What a program can have rendered. -/
inductive Request where
  | render (region : Region)
  | embed (path : String)

/-- A program that has only some things rendered. -/
def Program.Asks {α : Type} (allowed : Request → Prop) : Program α → Prop
  | .done _ => True
  | .fail _ => True
  | .look next => ∀ view, (next view).Asks allowed
  | .update _ next => next.Asks allowed
  | .render region next => allowed (.render region) ∧ ∀ rendered, (next rendered).Asks allowed
  | .embed path next => allowed (.embed path) ∧ ∀ rendered, (next rendered).Asks allowed

/-- A handler that has only some things rendered, in its body and in the hooks around it. -/
structure Handler.Asks (h : Handler) (e : Element) (around inside : Request → Prop) : Prop where
  guard : (h.guard e).Asks around
  enter : (h.enter e).Asks around
  body : (h.body e).Asks inside
  exit : ∀ text, (h.exit e text).Asks around

theorem Program.asks_anything {α : Type} (p : Program α) : p.Asks fun _ => True := by
  induction p with
  | done => exact trivial
  | fail => exact trivial
  | look next ih => exact ih
  | update change next ih => exact ih
  | render region next ih => exact ⟨trivial, ih⟩
  | embed path next ih => exact ⟨trivial, ih⟩

theorem Handler.asks_anything (h : Handler) (e : Element) :
    h.Asks e (fun _ => True) fun _ => True :=
  ⟨(h.guard e).asks_anything, (h.enter e).asks_anything, (h.body e).asks_anything,
    fun text => (h.exit e text).asks_anything⟩

/-! ## Couplings -/

/-- An event other than the beginning of a hook, whose entry tells the depth. -/
def Event.isSettled : Event → Bool
  | .hookBegins _ _ _ _ => false
  | _ => true

/-- What two runs under the same limits may differ in. -/
structure Coupling (limits : Limits) where
  /-- The books of the one run and of the other. -/
  books : Books → Books → Prop
  /-- Their journals. -/
  journals : Option (List Event) → Option (List Event) → Prop
  /-- Whether the second run may succeed where the first one fails. -/
  forgiving : Bool
  same_view : ∀ {b b' : Books}, books b b' →
    b'.interpolating = b.interpolating ∧ b'.depth = b.depth
  interpolate : ∀ {b b' : Books}, books b b' → ∀ flag,
    books (b.interpolate flag) (b'.interpolate flag)
  opened : ∀ {b b' : Books}, books b b' → b.depth < limits.maxDepth → books b.opened b'.opened
  begins : ∀ {b b' : Books} {j j' : Option (List Event)}, books b b' → journals j j' →
    ∀ hook tag, journals (j.map (.hookBegins hook tag b.depth b.includeDepth :: ·))
      (j'.map (.hookBegins hook tag b'.depth b'.includeDepth :: ·))
  notes : ∀ {j j' : Option (List Event)}, journals j j' → ∀ event, event.isSettled = true →
    journals (j.map (event :: ·)) (j'.map (event :: ·))

variable {limits : Limits} {α : Type}

namespace Coupling

variable (c : Coupling limits) {b b' : Books} {st st' : RenderState}

/-- The states of the two runs with the given books. -/
structure At (b b' : Books) (st st' : RenderState) : Prop where
  books : c.books b b'
  left : st.books = b
  right : st'.books = b'
  scope : st'.scope = st.scope
  journals : c.journals st.journal st'.journal

/-- What the first run comes to binds the second one. -/
def Binds (x : Except RenderError α) : Prop := c.forgiving = true → x.isOk = true

variable {c}

theorem binds_ok (a : α) : c.Binds (.ok a : Except RenderError α) := fun _ => rfl

/-- It does if it is no failure, or if the second run may not succeed where the first one fails. -/
theorem binds_iff {x : Except RenderError α} :
    c.Binds x ↔ FailsOnly (fun _ => c.forgiving = false) x := by
  cases x with
  | ok a => exact iff_of_true (binds_ok a) (failsOnly_ok a)
  | error e =>
    constructor
    · intro h
      refine failsOnly_error (Bool.eq_false_iff.mpr fun hforgiving => ?_)
      cases h hforgiving
    · intro h hforgiving
      rw [h e rfl] at hforgiving
      cases hforgiving

end Coupling

theorem RenderState.journal_note (st : RenderState) (event : Event) :
    (st.note event).journal = st.journal.map (event :: ·) := by
  unfold note
  cases h : st.journal with
  | none => exact h
  | some journal => rfl

namespace Coupling.At

variable {c : Coupling limits} {b b' : Books} {st st' : RenderState}

theorem interpolating_eq (h : c.At b b' st st') : st'.interpolating = st.interpolating := by
  have hleft := congrArg Books.interpolating h.left
  have hright := congrArg Books.interpolating h.right
  exact hright.trans ((c.same_view h.books).1.trans hleft.symm)

theorem depth_eq (h : c.At b b' st st') : st'.depth = st.depth := by
  have hleft := congrArg Books.depth h.left
  have hright := congrArg Books.depth h.right
  exact hright.trans ((c.same_view h.books).2.trans hleft.symm)

/-- Hooks of the two runs see the same. -/
theorem view_eq (h : c.At b b' st st') : st'.view limits = st.view limits := by
  unfold RenderState.view
  rw [h.scope, h.interpolating_eq]

theorem note (h : c.At b b' st st') (event : Event) (hevent : event.isSettled = true) :
    c.At b b' (st.note event) (st'.note event) where
  books := h.books
  left := (st.books_note event).trans h.left
  right := (st'.books_note event).trans h.right
  scope := by rw [RenderState.scope_note, RenderState.scope_note, h.scope]
  journals := by
    rw [RenderState.journal_note, RenderState.journal_note]
    exact c.notes h.journals event hevent

theorem noteBeginning (h : c.At b b' st st') (hook : Hook) (tag : Tag) :
    c.At b b' (st.note (.hookBegins hook tag st.depth st.includeDepth))
      (st'.note (.hookBegins hook tag st'.depth st'.includeDepth)) where
  books := h.books
  left := (st.books_note _).trans h.left
  right := (st'.books_note _).trans h.right
  scope := by rw [RenderState.scope_note, RenderState.scope_note, h.scope]
  journals := by
    rw [RenderState.journal_note, RenderState.journal_note]
    have hbegins := c.begins h.books h.journals hook tag
    rw [← h.left, ← h.right] at hbegins
    exact hbegins

theorem update (h : c.At b b' st st') (change : Scope → Scope) :
    c.At b b' { st with scope := change st.scope } { st' with scope := change st'.scope } where
  books := h.books
  left := h.left
  right := h.right
  scope := congrArg change h.scope
  journals := h.journals

theorem interpolate (h : c.At b b' st st') (flag : Bool) :
    c.At (b.interpolate flag) (b'.interpolate flag) { st with interpolating := flag }
      { st' with interpolating := flag } where
  books := c.interpolate h.books flag
  left := by rw [← h.left]; rfl
  right := by rw [← h.right]; rfl
  scope := h.scope
  journals := h.journals

/-- In the body of a handler. -/
theorem inside (h : c.At b b' st st') (handler : Handler) :
    c.At (b.inside handler) (b'.inside handler) (handler.inBody st) (handler.inBody st') := by
  have hflag : b'.interpolating = b.interpolating := (c.same_view h.books).1
  have hst : st.interpolating = b.interpolating := congrArg Books.interpolating h.left
  unfold Books.inside Handler.inBody
  rw [h.interpolating_eq, hflag, hst]
  exact h.interpolate _

/-- After a body the flag is put back. -/
theorem afterBody {after after' : RenderState} {flag flag' : Bool}
    (h : c.At (b.interpolate flag) (b'.interpolate flag') after after')
    (hbefore : c.At b b' st st') :
    c.At b b' (after.afterBody st) (after'.afterBody st') where
  books := hbefore.books
  left := by
    have hflag := congrArg Books.interpolating hbefore.left
    have hdepth := congrArg Books.depth h.left
    have hincludes := congrArg Books.includeDepth h.left
    exact Books.ext hflag hdepth hincludes
  right := by
    have hflag := congrArg Books.interpolating hbefore.right
    have hdepth := congrArg Books.depth h.right
    have hincludes := congrArg Books.includeDepth h.right
    exact Books.ext hflag hdepth hincludes
  scope := h.scope
  journals := h.journals

/-- In the hooks of a tag. -/
theorem within (h : c.At b b' st st') {e : Element} (hfits : e.Fits limits st) :
    c.At (e.within b) (e.within b') (st.inside e) (st'.inside e) := by
  rcases e with ⟨tag, _ | children⟩
  · exact h
  · have hdepth : st.depth = b.depth := congrArg Books.depth h.left
    have hroom : st.depth < limits.maxDepth := hfits rfl
    rw [hdepth] at hroom
    exact
      { books := c.opened h.books hroom
        left := by rw [← h.left]; rfl
        right := by rw [← h.right]; rfl
        scope := h.scope
        journals := h.journals }

/-- States with the same books and journals are the same. -/
theorem eq_of (h : c.At b b' st st') (hbooks : b' = b) (hjournals : st'.journal = st.journal) :
    st' = st := by
  have heq : st'.books = st.books := h.right.trans (hbooks.trans h.left.symm)
  have hscope := h.scope
  obtain ⟨scope, interpolating, depth, includeDepth, journal⟩ := st
  obtain ⟨scope', interpolating', depth', includeDepth', journal'⟩ := st'
  obtain ⟨hflag, hdepth, hincludes⟩ : interpolating' = interpolating ∧ depth' = depth ∧
      includeDepth' = includeDepth := Books.mk.inj heq
  simp only at hscope hjournals
  rw [hscope, hflag, hdepth, hincludes, hjournals]

/-- After the hooks of a tag. -/
theorem outside {e : Element} (hbefore : c.At b b' st st') {after after' : RenderState}
    (h : c.At (e.within b) (e.within b') after after') :
    c.At b b' (after.outside e) (after'.outside e) where
  books := hbefore.books
  left := st.books_outside (h.left.trans (e.within_books hbefore.left)) |>.trans hbefore.left
  right := st'.books_outside (h.right.trans (e.within_books hbefore.right)) |>.trans hbefore.right
  scope := by rw [RenderState.scope_outside, RenderState.scope_outside, h.scope]
  journals := by
    rw [RenderState.journal_outside, RenderState.journal_outside]
    exact h.journals

end Coupling.At

/-! ## Programs -/

namespace Coupling

variable {c : Coupling limits} {b b' : Books} {st st' : RenderState}

/-- What is rendered in the two runs comes to the same. -/
def Renders (c : Coupling limits) (b b' : Books) (render render' : Render) : Prop :=
  ∀ st st', c.At b b' st st' → c.Binds (render st).1.outcome →
    (render' st').1 = (render st).1 ∧ c.At b b' (render st).2 (render' st').2

/-- Surroundings in which some requests come to the same. -/
structure Surrounds (c : Coupling limits) (b b' : Books) (allowed : Request → Prop)
    (s s' : Surroundings) : Prop where
  region : ∀ asked, allowed (.render asked) → c.Renders b b' (s.region asked) (s'.region asked)
  embed : ∀ path, allowed (.embed path) → c.Renders b b' (s.embed path) (s'.embed path)

variable {region region' : Region → Render} {embed embed' : String → Render}
  {allowed around inside : Request → Prop}

/-- A program passes on an error in what it had rendered, and so it does further on when there is
none. -/
structure Continues (limits : Limits) (next : Rendered → Program α) : Prop where
  error : PassesErrorsOn next
  ok : ∀ text flow, (next ⟨text, .ok flow⟩).CarriesOver limits limits (next ⟨text, .ok flow⟩)

theorem continues_of_render {asked : Region} {next : Rendered → Program α}
    (h : (Program.render asked next).CarriesOver limits limits (.render asked next)) :
    Continues limits next := by
  cases h with
  | render _ herror hok => exact ⟨herror, hok⟩

theorem continues_of_embed {path : String} {next : Rendered → Program α}
    (h : (Program.embed path next).CarriesOver limits limits (.embed path next)) :
    Continues limits next := by
  cases h with
  | embed _ herror hok => exact ⟨herror, hok⟩

/-- What a program has rendered comes to the same in both runs. Where failures are forgiven it must
be a success, since the program passes a failure on. -/
theorem Renders.meets {render render' : Render} (h : c.Renders b b' render render')
    {s : Surroundings} {next : Rendered → Program α}
    (hnext : c.forgiving = true → Continues limits next) (hat : c.At b b' st st')
    (hbinds : c.Binds ((next (render st).1).run s (render st).2).1) :
    (render' st').1 = (render st).1 ∧ c.At b b' (render st).2 (render' st').2 ∧
      (c.forgiving = true → (next (render st).1).CarriesOver limits limits
        (next (render st).1)) := by
  have hsuccess : c.forgiving = true → ∃ text flow, (render st).1 = ⟨text, .ok flow⟩ := by
    intro hforgiving
    rcases hr : (render st).1 with ⟨text, e | flow⟩
    · obtain ⟨error, hfail⟩ := (hnext hforgiving).error text e
      have hrun := hbinds hforgiving
      rw [hr, hfail] at hrun
      cases hrun
    · exact ⟨text, flow, rfl⟩
  have hrendered : c.Binds (render st).1.outcome := by
    intro hforgiving
    obtain ⟨text, flow, hr⟩ := hsuccess hforgiving
    rw [hr]
    rfl
  obtain ⟨hsame, hafter⟩ := h st st' hat hrendered
  refine ⟨hsame, hafter, fun hforgiving => ?_⟩
  obtain ⟨text, flow, hr⟩ := hsuccess hforgiving
  rw [hr]
  exact (hnext hforgiving).ok text flow

/-- A program comes to the same in both runs. -/
theorem run (p : Program α) (hp : c.forgiving = true → p.CarriesOver limits limits p)
    (hasks : p.Asks allowed)
    (hs : c.Surrounds b b' allowed ⟨limits, region, embed⟩ ⟨limits, region', embed'⟩)
    (hat : c.At b b' st st') (hbinds : c.Binds (p.run ⟨limits, region, embed⟩ st).1) :
    (p.run ⟨limits, region', embed'⟩ st').1 = (p.run ⟨limits, region, embed⟩ st).1 ∧
      c.At b b' (p.run ⟨limits, region, embed⟩ st).2 (p.run ⟨limits, region', embed'⟩ st').2 := by
  induction p generalizing st st' with
  | done result => exact ⟨rfl, hat⟩
  | fail error => exact ⟨rfl, hat⟩
  | look next ih =>
    have hnext : c.forgiving = true → (next (st.view limits)).CarriesOver limits limits
        (next (st.view limits)) := by
      intro hforgiving
      cases hp hforgiving with
      | look h => exact h _ _
    show (Program.run _ (next (st'.view limits)) st').1 = _ ∧
      c.At b b' _ (Program.run _ (next (st'.view limits)) st').2
    rw [hat.view_eq]
    exact ih _ hnext (hasks _) hat hbinds
  | update change next ih =>
    have hnext : c.forgiving = true → next.CarriesOver limits limits next := by
      intro hforgiving
      cases hp hforgiving with
      | update _ h => exact h
    exact ih hnext hasks (hat.update change) hbinds
  | render asked next ih =>
    rw [Program.run_render] at hbinds
    obtain ⟨hsame, hafter, hnext⟩ :=
      (hs.region asked hasks.1).meets (fun hf => continues_of_render (hp hf)) hat hbinds
    rw [Program.run_render, Program.run_render, hsame]
    exact ih _ hnext (hasks.2 _) hafter hbinds
  | embed path next ih =>
    rw [Program.run_embed] at hbinds
    obtain ⟨hsame, hafter, hnext⟩ :=
      (hs.embed path hasks.1).meets (fun hf => continues_of_embed (hp hf)) hat hbinds
    rw [Program.run_embed, Program.run_embed, hsame]
    exact ih _ hnext (hasks.2 _) hafter hbinds

/-- So does a hook. -/
theorem runHook {p : Program α} (hp : c.forgiving = true → p.CarriesOver limits limits p)
    (hasks : p.Asks allowed)
    (hs : c.Surrounds b b' allowed ⟨limits, region, embed⟩ ⟨limits, region', embed'⟩)
    (hat : c.At b b' st st') {hook : Hook} {tag : Tag} {result : Except RenderError α → HookResult}
    {answer : Except RenderError α} {st₁ : RenderState}
    (hrun : p.runHook ⟨limits, region, embed⟩ hook tag result st = (answer, st₁))
    (hbinds : c.Binds answer) :
    ∃ st₁', p.runHook ⟨limits, region', embed'⟩ hook tag result st' = (answer, st₁') ∧
      c.At b b' st₁ st₁' := by
  have hbegun := hat.noteBeginning hook tag
  obtain ⟨hanswer, hafter⟩ := Prod.mk.inj hrun
  subst hanswer hafter
  obtain ⟨hsame, hend⟩ := run p hp hasks hs hbegun hbinds
  refine ⟨(p.runHook ⟨limits, region', embed'⟩ hook tag result st').2, Prod.ext hsame rfl, ?_⟩
  show c.At b b' _ (RenderState.note _ (.hookEnds tag (result _)))
  rw [hsame]
  exact hend.note _ rfl

/-! ## Handlers -/

/-- The hook of the body comes to the same, with the flag in it as the handler says. -/
theorem runBody {h : Handler} {e : Element}
    (hh : c.forgiving = true → h.CarriesOver limits limits) (hasks : h.Asks e around inside)
    (hin : c.Surrounds (b.inside h) (b'.inside h) inside ⟨limits, region, embed⟩
      ⟨limits, region', embed'⟩) (hat : c.At b b' st st')
    {answer : Except RenderError (String × Flow)} {st₁ : RenderState}
    (hrun : (h.body e).runHook ⟨limits, region, embed⟩ .body e.tag .body (h.inBody st) =
      (answer, st₁)) (hbinds : c.Binds answer) :
    ∃ st₁', (h.body e).runHook ⟨limits, region', embed'⟩ .body e.tag .body (h.inBody st') =
      (answer, st₁') ∧ c.At b b' (st₁.afterBody st) (st₁'.afterBody st') := by
  obtain ⟨st₁', hrun', hafter⟩ :=
    runHook (fun hf => (hh hf).body e) hasks.body hin (hat.inside h) hrun hbinds
  exact ⟨st₁', hrun', hafter.afterBody hat⟩

/-- The hooks of a tag come to the same in both runs when what they have rendered does: with the
flag as it is around the tag, or, in its body, as the handler says. -/
theorem sameRun {h : Handler} {e : Element}
    (hh : c.forgiving = true → h.CarriesOver limits limits) (hasks : h.Asks e around inside)
    (hout : c.Surrounds b b' around ⟨limits, region, embed⟩ ⟨limits, region', embed'⟩)
    (hin : c.Surrounds (b.inside h) (b'.inside h) inside ⟨limits, region, embed⟩
      ⟨limits, region', embed'⟩) :
    h.SameRun (fun _ => c.forgiving = false) (c.At b b') e e ⟨limits, region, embed⟩
      ⟨limits, region', embed'⟩ where
  guard hat hrun hfails :=
    runHook (fun hf => (hh hf).guard e) hasks.guard hout hat hrun (binds_iff.mpr hfails)
  enter hat hrun hfails :=
    runHook (fun hf => (hh hf).enter e) hasks.enter hout hat hrun (binds_iff.mpr hfails)
  body hat hrun hfails := runBody hh hasks hin hat hrun (binds_iff.mpr hfails)
  exit hat hrun hfails :=
    runHook (fun hf => (hh hf).exit e _) (hasks.exit _) hout hat hrun (binds_iff.mpr hfails)

/-- So does its activation. A block is opened in both runs or in neither. -/
theorem activateWithin {h : Handler} {e : Element}
    (hh : c.forgiving = true → h.CarriesOver limits limits) (hasks : h.Asks e around inside)
    (hsurrounds : (e.body.isSome = true → b.depth < limits.maxDepth) →
      c.Surrounds (e.within b) (e.within b') around ⟨limits, region, embed⟩
        ⟨limits, region', embed'⟩ ∧
      c.Surrounds ((e.within b).inside h) ((e.within b').inside h) inside ⟨limits, region, embed⟩
        ⟨limits, region', embed'⟩)
    (hat : c.At b b' st st')
    (hbinds : c.Binds (h.activateWithin e ⟨limits, region, embed⟩ st).outcome) :
    Activation.Related (c.At b b') (h.activateWithin e ⟨limits, region, embed⟩ st)
      (h.activateWithin e ⟨limits, region', embed'⟩ st') := by
  have hdepth : st.depth = b.depth := congrArg Books.depth hat.left
  by_cases hfits : e.Fits limits st
  · have hfits' : e.Fits limits st' := fun hblock => hat.depth_eq ▸ hfits hblock
    obtain ⟨hout, hin⟩ := hsurrounds fun hblock => hdepth ▸ hfits hblock
    rw [Handler.activateWithin_of_fits hfits] at hbinds ⊢
    rw [Handler.activateWithin_of_fits hfits']
    obtain ⟨htext, houtcome, hstate⟩ :=
      (sameRun hh hasks hout hin).activate (hat.within hfits) (binds_iff.mp hbinds)
    exact ⟨htext, houtcome, hat.outside hstate⟩
  · have hfull : ¬e.Fits limits st' := fun hfits' =>
      hfits fun hblock => hat.depth_eq ▸ hfits' hblock
    rw [Handler.activateWithin_of_full hfits, Handler.activateWithin_of_full hfull]
    exact ⟨rfl, rfl, hat⟩

end Coupling

end TagTemplate
