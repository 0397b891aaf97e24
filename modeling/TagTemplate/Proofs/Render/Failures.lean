import TagTemplate.Proofs.Render.Depth

/-!
# What a render can fail with

A hook fails with an error of its own, or it passes on an error in what it had rendered. So when the
errors that handlers raise by themselves are all of some kind, and those of includes are too, a
whole walk fails only so, apart from the errors of the walk itself (`walk_failsOnly`). The kind may
depend on how many includes are open, which is the same throughout a walk.
-/

namespace TagTemplate

variable {α β : Type} {kind : RenderError → Prop} {includes : Nat}

theorem FailsOnly.bind {x : Except RenderError α} {f : α → Except RenderError β}
    (hx : FailsOnly kind x) (hf : ∀ a, FailsOnly kind (f a)) : FailsOnly kind (x >>= f) := by
  cases x with
  | error e => exact hx.of_error
  | ok a => exact hf a

/-- A condition fails for a variable that is not bound or because it is no condition. -/
theorem Tag.failsOnly_conditionHolds {tag : Tag}
    (hundefined : ∀ name, kind (.undefinedVariable name tag.span.line))
    (hfault : ∀ fault, kind (.condition fault tag.span.line)) (source : String) (scope : Scope) :
    FailsOnly kind (tag.conditionHolds source scope) := by
  unfold conditionHolds
  split
  · exact failsOnly_ok _
  · exact failsOnly_error (hundefined _)
  · exact failsOnly_error (hfault _)

/-! ## Programs -/

/-- A program raises by itself only errors of a kind, and an error in what it had rendered is the
error of the program. -/
def Program.Raises (kind : RenderError → Prop) : Program α → Prop
  | .done _ => True
  | .fail e => kind e
  | .look next => ∀ view, (next view).Raises kind
  | .update _ next => next.Raises kind
  | .render _ next => (∀ text e, next ⟨text, .error e⟩ = .fail e) ∧
    ∀ text flow, (next ⟨text, .ok flow⟩).Raises kind
  | .embed _ next => (∀ text e, next ⟨text, .error e⟩ = .fail e) ∧
    ∀ text flow, (next ⟨text, .ok flow⟩).Raises kind

/-- A handler that raises only errors of a kind. -/
structure Handler.Raises (kind : RenderError → Prop) (h : Handler) : Prop where
  guard : ∀ e, (h.guard e).Raises kind
  enter : ∀ e, (h.enter e).Raises kind
  body : ∀ e, (h.body e).Raises kind
  exit : ∀ e text, (h.exit e text).Raises kind

/-- A registry of handlers that raise only errors of a kind. -/
def Registry.Raises (kind : RenderError → Prop) (r : Registry) : Prop :=
  ∀ name h, r.get? name = some h → h.Raises kind

namespace Program.Raises

theorem andThen {p : Program α} {f : α → Program β} (hp : p.Raises kind)
    (hf : ∀ a, (f a).Raises kind) : (p.andThen f).Raises kind := by
  have hpasses : ∀ {next : Rendered → Program α}, (∀ text e, next ⟨text, .error e⟩ = .fail e) →
      ∀ text e, (next ⟨text, .error e⟩).andThen f = .fail e := by
    intro next hnext text e
    rw [hnext]
    rfl
  induction p with
  | done result => exact hf result
  | fail error => exact hp
  | look next ih => exact fun view => ih view (hp view)
  | update change next ih => exact ih hp
  | render region next ih => exact ⟨hpasses hp.1, fun text flow => ih _ (hp.2 text flow)⟩
  | embed path next ih => exact ⟨hpasses hp.1, fun text flow => ih _ (hp.2 text flow)⟩

theorem ofExcept {result : Except RenderError α} (h : FailsOnly kind result) :
    (Program.ofExcept result).Raises kind := by
  cases result with
  | error e => exact h e rfl
  | ok a => exact trivial

theorem scope : Program.scope.Raises kind := fun _ => trivial

theorem rendered (region : Region) : (Program.rendered region).Raises kind :=
  ⟨fun _ _ => rfl, fun _ _ => trivial⟩

theorem embedded (path : String) : (Program.embedded path).Raises kind :=
  ⟨fun _ _ => rfl, fun _ _ => trivial⟩

/-- Errors of one kind are errors of any wider one. -/
theorem mono {wider : RenderError → Prop} (hwider : ∀ e, kind e → wider e) {p : Program α}
    (hp : p.Raises kind) : p.Raises wider := by
  induction p with
  | done result => exact trivial
  | fail error => exact hwider error hp
  | look next ih => exact fun view => ih view (hp view)
  | update change next ih => exact ih hp
  | render region next ih => exact ⟨hp.1, fun text flow => ih _ (hp.2 text flow)⟩
  | embed path next ih => exact ⟨hp.1, fun text flow => ih _ (hp.2 text flow)⟩

/-- A program whose own errors are not that a block nests too deep is honest. -/
theorem honest (hkind : ∀ e, kind e → e.isTooDeep = false) {p : Program α} (hp : p.Raises kind) :
    p.Honest := by
  have hpassed : ∀ {next : Rendered → Program α}, (∀ text e, next ⟨text, .error e⟩ = .fail e) →
      (∀ text flow, (next ⟨text, .ok flow⟩).Honest) → ∀ rendered, Spared rendered.outcome →
      (next rendered).Honest := by
    rintro next herror hok ⟨text, e | flow⟩ hspared
    · rw [herror]
      exact .fail (hspared e rfl)
    · exact hok text flow
  induction p with
  | done result => exact .done result
  | fail error => exact .fail (hkind error hp)
  | look next ih => exact .look fun view => ih view (hp view)
  | update change next ih => exact .update change (ih hp)
  | render region next ih =>
    exact .render region (hpassed hp.1 fun text flow => ih _ (hp.2 text flow))
  | embed path next ih =>
    exact .embed path (hpassed hp.1 fun text flow => ih _ (hp.2 text flow))

end Program.Raises

theorem Handler.Raises.mono {wider : RenderError → Prop} (hwider : ∀ e, kind e → wider e)
    {h : Handler} (hh : h.Raises kind) : h.Raises wider where
  guard e := (hh.guard e).mono hwider
  enter e := (hh.enter e).mono hwider
  body e := (hh.body e).mono hwider
  exit e text := (hh.exit e text).mono hwider

theorem Registry.Raises.mono {wider : RenderError → Prop} (hwider : ∀ e, kind e → wider e)
    {r : Registry} (hr : r.Raises kind) : r.Raises wider :=
  fun name h hget => (hr name h hget).mono hwider

theorem Handler.Raises.honest (hkind : ∀ e, kind e → e.isTooDeep = false) {h : Handler}
    (hh : h.Raises kind) : h.Honest where
  guard e := (hh.guard e).honest hkind
  enter e := (hh.enter e).honest hkind
  body e := (hh.body e).honest hkind
  exit e text := (hh.exit e text).honest hkind

/-! ## Running hooks -/

/-- The render fails only with errors of a kind while so many includes are open. -/
def Render.FailsOnly (kind : RenderError → Prop) (includes : Nat) (render : Render) : Prop :=
  ∀ st, st.includeDepth = includes → TagTemplate.FailsOnly kind (render st).1.outcome

/-- Surroundings that leave the books as they were, and in which what is rendered fails only with
errors of a kind while so many includes are open. -/
structure Surroundings.FailsOnly (kind : RenderError → Prop) (includes : Nat) (s : Surroundings) :
    Prop extends s.Restores where
  region_fails : ∀ region, Render.FailsOnly kind includes (s.region region)
  embed_fails : ∀ path, Render.FailsOnly kind includes (s.embed path)

variable {s : Surroundings}

/-- A program fails with an error of its own or with one in what it had rendered. -/
theorem Program.Raises.failsOnly_run (hs : s.FailsOnly kind includes) {p : Program α}
    (hp : p.Raises kind) (st : RenderState) (hst : st.includeDepth = includes) :
    FailsOnly kind (p.run s st).1 := by
  have hpassed : ∀ {next : Rendered → Program α} {rendered : Rendered} {st : RenderState},
      (∀ text e, next ⟨text, .error e⟩ = .fail e) → FailsOnly kind rendered.outcome →
      (∀ text flow, FailsOnly kind ((next ⟨text, .ok flow⟩).run s st).1) →
      FailsOnly kind ((next rendered).run s st).1 := by
    rintro next ⟨text, e | flow⟩ st herror hrendered hok
    · rw [herror]
      exact hrendered.of_error
    · exact hok text flow
  induction p generalizing st with
  | done result => exact failsOnly_ok result
  | fail error => exact failsOnly_error hp
  | look next ih => exact ih _ (hp _) st hst
  | update change next ih => exact ih hp { st with scope := change st.scope } hst
  | render region next ih =>
    have hafter := congrArg Books.includeDepth (hs.region region st)
    exact hpassed hp.1 (hs.region_fails region st hst) fun text flow =>
      ih _ (hp.2 text flow) _ (hafter.trans hst)
  | embed path next ih =>
    have hafter := congrArg Books.includeDepth (hs.embed path st)
    exact hpassed hp.1 (hs.embed_fails path st hst) fun text flow =>
      ih _ (hp.2 text flow) _ (hafter.trans hst)

/-- So does a hook that ran. -/
theorem Program.Raises.failsOnly_of_runHook (hs : s.FailsOnly kind includes) {p : Program α}
    (hp : p.Raises kind) {hook : Hook} {tag : Tag} {result : Except RenderError α → HookResult}
    {st st₁ : RenderState} {answer : Except RenderError α}
    (hrun : p.runHook s hook tag result st = (answer, st₁)) (hst : st.includeDepth = includes) :
    FailsOnly kind answer := by
  have hanswer : answer = (p.runHook s hook tag result st).1 := by rw [hrun]
  have hnote := congrArg Books.includeDepth
    (st.books_note (.hookBegins hook tag st.depth st.includeDepth))
  rw [hanswer]
  exact hp.failsOnly_run hs _ (hnote.trans hst)

namespace Handler.Raises

variable {h : Handler}

theorem failsFrom (hh : h.Raises kind) (hs : s.FailsOnly kind includes) (e : Element)
    {books : Books} (hbooks : books.includeDepth = includes) :
    h.FailsFrom kind (fun st => st.books = books) e s where
  guard hst hrun :=
    (hh.guard e).failsOnly_of_runHook hs hrun ((congrArg Books.includeDepth hst).trans hbooks)
  enter hst hrun :=
    (hh.enter e).failsOnly_of_runHook hs hrun ((congrArg Books.includeDepth hst).trans hbooks)
  body hst hrun :=
    (hh.body e).failsOnly_of_runHook hs hrun ((congrArg Books.includeDepth hst).trans hbooks)
  exit hst hrun :=
    (hh.exit e _).failsOnly_of_runHook hs hrun ((congrArg Books.includeDepth hst).trans hbooks)

/-- An activation fails in one of its hooks, or it is a block that nests too deep. -/
theorem failsOnly_activateWithin (hh : h.Raises kind) (hs : s.FailsOnly kind includes)
    (hdeep : ∀ limit line, kind (.tooDeep limit line)) (e : Element) (st : RenderState)
    (hst : st.includeDepth = includes) : FailsOnly kind (h.activateWithin e s st).outcome := by
  refine activateWithin_cases (fun _ => ?_) fun _ => failsOnly_error (hdeep _ _)
  have hopened : (st.inside e).books.includeDepth = includes := hst
  exact (keeps_books hs.toRestores e _).failsOnly_activate (hh.failsFrom hs e hopened) rfl

end Handler.Raises

/-! ## Walking a tree -/

/-- The walk fails only with errors of a kind while so many includes are open. -/
def Walker.FailsOnly (kind : RenderError → Prop) (includes : Nat) (walk : Walker) : Prop :=
  ∀ chain out st, st.includeDepth = includes →
    TagTemplate.FailsOnly kind (walk chain out st).outcome

theorem Walker.FailsOnly.pass {walk : Walker} (h : walk.FailsOnly kind includes) :
    Render.FailsOnly kind includes (Setting.pass walk) := by
  intro st hst
  have hnote := congrArg Books.includeDepth (st.books_note .passBegins)
  exact h none "" _ (hnote.trans hst)

/-- A setting in which handlers and includes fail only with errors of a kind, that of the errors of
the walk itself among them. -/
structure Setting.FailsOnly (kind : RenderError → Prop) (includes : Nat) (s : Setting) : Prop where
  registry : s.registry.Raises kind
  embed : ∀ path, Render.Restores (s.embed path)
  embed_fails : ∀ path, Render.FailsOnly kind includes (s.embed path)
  unknownTag : ∀ name, kind (.unknownTag name)
  misplaced : ∀ tag allowed line, kind (.misplaced tag allowed line)
  tooDeep : ∀ limit line, kind (.tooDeep limit line)

namespace Setting

variable {s : Setting}

theorem visit_failsOnly (hs : s.FailsOnly kind includes) {region : Region → Render}
    (hrestores : ∀ r, Render.Restores (region r))
    (hregion : ∀ r, Render.FailsOnly kind includes (region r)) (e : Element) (chain : Chain)
    (out : String) (st : RenderState) (hst : st.includeDepth = includes) :
    (s.visit e region chain out st).FailsOnly kind := by
  have hsurroundings : Surroundings.FailsOnly kind includes ⟨s.limits, region, s.embed⟩ :=
    ⟨⟨hrestores, hs.embed⟩, hregion, hs.embed_fails⟩
  exact failsOnly_visit (fun _ => hs.unknownTag _) (hs.misplaced _ _ _) fun h hname =>
    (hs.registry _ h hname).failsOnly_activateWithin hsurroundings hs.tooDeep e st hst

/-- A walk fails with an error of a handler, of an include, or of its own. -/
theorem walk_failsOnly (hs : s.FailsOnly kind includes) (nodes : List Node) :
    Walker.FailsOnly kind includes (s.walk nodes) := by
  induction nodes using siblings_induction with
  | nil => exact fun _ _ _ _ => failsOnly_ok _
  | text text rest ih => exact fun _ _ st hst => ih _ _ st hst
  | interpolation expression span rest ih => exact fun _ _ st hst => ih _ _ st hst
  | tag e rest hrows ih =>
    intro chain out st hst
    have hvisit := visit_failsOnly hs (fun _ => (walk_restores hs.embed _).pass)
      (fun region => (hrows region).pass) e chain out st hst
    have hbooks := books_node hs.embed e.node chain out st
    rw [node_tag] at hbooks
    rw [walk_tag]
    cases hstep : s.visit e (fun region => pass (s.walk (e.row region))) chain out st with
    | goesOn chain' out' st' =>
      rw [hstep] at hbooks
      have hincludes := congrArg Books.includeDepth hbooks
      exact ih chain' out' st' (hincludes.trans hst)
    | ends w =>
      rw [hstep] at hvisit
      exact hvisit

end Setting

end TagTemplate
