import TagTemplate.Proofs.Builtin.Limits
import TagTemplate.Proofs.Engine.Opening
import TagTemplate.Proofs.Variables.Expansion

/-!
# Pasting an include

An include renders another template in its place. Where that succeeds, the nodes of the template
could stand there themselves (`run_pasted`). The two runs differ in the number of includes that are
open while the template is rendered, and the one with the include has less room for further
includes, so it fails in some cases where the other one does not. It also begins the template
without a chain of branches and goes on without one after it, which could only make it refuse a
branch that the other run allows.
-/

namespace TagTemplate

/-! ## The path of an include -/

/-- The tag includes the template at a path. -/
structure Tag.Includes (tag : Tag) (path : String) : Prop where
  name : tag.name = "cfinclude"
  path : tag.attr? "template" = some path ∨
    tag.attr? "template" = none ∧ tag.attr? "path" = some path

theorem Tag.Includes.includePath {tag : Tag} {path : String} (h : tag.Includes path)
    (hpath : '#' ∉ path.toList) (scope : Scope) : Builtin.includePath tag scope = .ok path := by
  unfold Builtin.includePath Tag.text?
  rcases h.path with htemplate | ⟨htemplate, hattr⟩
  · rw [htemplate, Option.map_some, scope.expandText_of_noMark hpath]
  · rw [htemplate, hattr, Option.map_none, Option.map_some, scope.expandText_of_noMark hpath]

/-! ## What an include does -/

/-- A hook does what its program does, between two entries in the journal. -/
theorem Program.runHook_of_run {α : Type} (s : Surroundings) (p : Program α) (hook : Hook)
    (tag : Tag) (result : Except RenderError α → HookResult) (st : RenderState) :
    ∃ journal, ∀ answer after, p.run s { st with journal } = (answer, after) →
      ∃ journal', p.runHook s hook tag result st =
        (answer, { after with journal := journal' }) := by
  obtain ⟨begun, hbegun⟩ := st.note_eq (.hookBegins hook tag st.depth st.includeDepth)
  refine ⟨begun, fun answer after hrun => ?_⟩
  obtain ⟨ended, hended⟩ := after.note_eq (.hookEnds tag (result answer))
  refine ⟨ended, ?_⟩
  rw [runHook, hbegun, hrun]
  exact congrArg (Prod.mk answer) hended

/-- A hook that does nothing leaves all but the journal as it is. -/
theorem Program.runHook_done_eq {α : Type} (s : Surroundings) (a : α) (hook : Hook) (tag : Tag)
    (result : Except RenderError α → HookResult) (st : RenderState) :
    ∃ journal, (Program.done a).runHook s hook tag result st = (.ok a, { st with journal }) := by
  obtain ⟨journal, hrun⟩ := runHook_of_run s (.done a) hook tag result st
  exact hrun (.ok a) { st with journal } rfl

namespace Builtin

variable {e : Element} {s : Surroundings} {st : RenderState} {path : String}

/-- The body of an include comes to what the template comes to. -/
theorem embedTemplate_run (hpath : includePath e.tag st.scope = .ok path) :
    (embedTemplate e).run s st =
      ((s.embed path st).1.outcome.map ((s.embed path st).1.text, ·), (s.embed path st).2) := by
  have hrun : (embedTemplate e).run s st =
      ((Program.ofExcept (includePath e.tag st.scope)).andThen Program.embedded).run s st := rfl
  rw [hrun, hpath]
  show (Program.passOn (s.embed path st).1).run s (s.embed path st).2 = _
  rcases s.embed path st with ⟨⟨text, error | flow⟩, st'⟩
  · rfl
  · rfl

/-- So does the include, up to what is in the journal. -/
theorem includeTag_activate (hpath : includePath e.tag st.scope = .ok path) :
    ∃ journal, ∀ rendered after, s.embed path { st with journal } = (rendered, after) →
      (includeTag.activate e s st).outcome = rendered.outcome.map (·, true) ∧
      (rendered.outcome.isOk = true → (includeTag.activate e s st).text = rendered.text) ∧
      (includeTag.activate e s st).state.scope = after.scope := by
  obtain ⟨j₁, hguard⟩ := Program.runHook_done_eq s true .guard e.tag .guard st
  obtain ⟨j₂, henter⟩ := Program.runHook_done_eq s () .enter e.tag .enter { st with journal := j₁ }
  obtain ⟨j₃, hbody⟩ := Program.runHook_of_run s (includeTag.body e) .body e.tag .body
    { st with journal := j₂ }
  refine ⟨j₃, fun rendered after hembed => ?_⟩
  have hpath' : includePath e.tag (RenderState.scope { st with journal := j₃ }) = .ok path := hpath
  have hrun : (includeTag.body e).run s { st with journal := j₃ } =
      (rendered.outcome.map (rendered.text, ·), after) := by
    show (embedTemplate e).run s _ = _
    rw [embedTemplate_run hpath', hembed]
  obtain ⟨j₄, hbody⟩ := hbody _ _ hrun
  -- what the template comes to decides in which hook the activation ends
  rcases rendered with ⟨text, error | flow⟩
  · have ha : includeTag.Activates e s st _ := .bodyFails hguard henter hbody
    rw [ha.eq]
    exact ⟨rfl, nofun, rfl⟩
  cases flow with
  | proceed =>
    obtain ⟨j₅, hexit⟩ := Program.runHook_done_eq s text .exit e.tag (.exit text)
      (RenderState.afterBody { after with journal := j₄ } { st with journal := j₂ })
    have ha : includeTag.Activates e s st _ := .exits hguard henter hbody hexit
    rw [ha.eq]
    exact ⟨rfl, fun _ => rfl, rfl⟩
  | breakLoop =>
    have ha : includeTag.Activates e s st _ := .bodyEnds (by decide) hguard henter hbody
    rw [ha.eq]
    exact ⟨rfl, fun _ => rfl, rfl⟩
  | abort =>
    have ha : includeTag.Activates e s st _ := .bodyEnds (by decide) hguard henter hbody
    rw [ha.eq]
    exact ⟨rfl, fun _ => rfl, rfl⟩

end Builtin

/-- The activation of a tag that comes to what was rendered. -/
def Activation.ofRendered (rendered : Rendered) (st : RenderState) : Activation :=
  match rendered.outcome with
  | .error error => ⟨"", .error error, st⟩
  | .ok flow => ⟨rendered.text, .ok (flow, true), st⟩

/-- The step over a tag that puts out what was rendered. -/
def Step.ofRendered (out : String) (rendered : Rendered) (st : RenderState) : Step :=
  (Activation.ofRendered rendered st).step none out

/-- Among its siblings an include puts out what the template comes to. -/
theorem Setting.visit_include {s : Setting}
    (hinclude : s.registry.get? "cfinclude" = some Builtin.includeTag) {tag : Tag} {path : String}
    (htag : tag.Includes path) (hpath : '#' ∉ path.toList) (region : Region → Render)
    (chain : Chain) (out : String) (st : RenderState) :
    ∃ journal, ∀ rendered after, s.embed path { st with journal } = (rendered, after) →
      ∃ after', s.visit ⟨tag, none⟩ region chain out st = .ofRendered out rendered after' ∧
        after'.scope = after.scope := by
  have hname : s.registry.get? tag.name = some Builtin.includeTag := by rw [htag.name, hinclude]
  have hturn : turn Builtin.includeTag.branch chain = .run := rfl
  obtain ⟨journal, hactivation⟩ := Builtin.includeTag_activate (e := ⟨tag, none⟩)
    (s := ⟨s.limits, region, s.embed⟩) (htag.includePath hpath st.scope)
  refine ⟨journal, fun rendered after hembed => ?_⟩
  obtain ⟨houtcome, htext, hscope⟩ := hactivation rendered after hembed
  have hwithin : ∀ {a}, Builtin.includeTag.activate ⟨tag, none⟩ ⟨s.limits, region, s.embed⟩ st = a →
      Builtin.includeTag.activateWithin ⟨tag, none⟩ ⟨s.limits, region, s.embed⟩ st = a :=
    fun h => h
  rcases ha : Builtin.includeTag.activate ⟨tag, none⟩ ⟨s.limits, region, s.embed⟩ st with
    ⟨text, outcome, after'⟩
  rw [ha] at houtcome htext hscope
  refine ⟨after', ?_, hscope⟩
  rw [visit_of_run hname hturn, hwithin ha]
  rcases rendered with ⟨renderedText, error | flow⟩
  · cases houtcome
    rfl
  · cases houtcome
    cases htext rfl
    rfl

/-! ## The two runs -/

/-- The second walk puts out the same as the first one, ends alike and leaves the same variables. -/
structure Walk.Agrees (w w' : Walk) : Prop where
  out : w'.out = w.out
  outcome : w'.outcome = w.outcome
  scope : w'.state.scope = w.state.scope

theorem Coupling.Walks.agrees {limits : Limits} {c : Coupling limits} {b b' : Books} {w w' : Walk}
    (h : c.Walks b b' w w') : w.Agrees w' := ⟨h.out, h.outcome, h.state.scope⟩

/-- Two runs of which the first one may have more includes open, and fail where the second one does
not. -/
def pasting (limits : Limits) : Coupling limits where
  books b b' := b'.interpolating = b.interpolating ∧ b'.depth = b.depth ∧
    b'.includeDepth ≤ b.includeDepth
  journals _ _ := True
  forgiving := true
  same_view h := ⟨h.1, h.2.1⟩
  interpolate h _ := ⟨rfl, h.2.1, h.2.2⟩
  opened h _ := ⟨h.1, congrArg (· + 1) h.2.1, h.2.2⟩
  begins _ _ _ _ := trivial
  notes _ _ _ := trivial

theorem pasting_passing (limits : Limits) : (pasting limits).Passing Builtin.registry :=
  fun _ => Builtin.registry_carriesOver ⟨Nat.le_refl _, Nat.le_refl _, Nat.le_refl _⟩

namespace Engine

variable {engine : Engine} {template : Template} {path : String} {tag : Tag}

/-- With fewer includes open, at least as many may still be opened. -/
theorem embed_pasting (hpassing : (pasting engine.limits).Passing engine.registry) {n m : Nat}
    (hle : n ≤ m) (includes : Nat) :
    (pasting engine.limits).Embeds includes (engine.embed n) (engine.embed m) := by
  induction n generalizing m includes with
  | zero =>
    intro b b' _ _ path st st' _ hbinds
    cases hbinds rfl
  | succ n ih =>
    obtain ⟨m, rfl⟩ : ∃ k, m = k + 1 := ⟨m - 1, by omega⟩
    intro b b' hbooks _ path
    have hfewer : b'.includeDepth ≤ b.includeDepth := hbooks.2.2
    rw [embed_succ, embed_succ]
    refine Coupling.opening hbooks (fun _ => .inl rfl) (fun hroom => ?_) path
    have hincluded : (pasting engine.limits).books b.included b'.included :=
      ⟨rfl, hbooks.2.1, Nat.succ_le_succ hfewer⟩
    exact ⟨by omega, hincluded, fun nodes =>
      Coupling.walk hpassing (ih (Nat.le_of_succ_le_succ hle) _) nodes _ _ hincluded rfl⟩

/-- A template that is included is rendered with one more include open, onto a buffer of its own. -/
theorem embed_of_isOk {budget : Nat} {st : RenderState} (hfetch : engine.fetch path = .ok template)
    (hok : (engine.embed budget path st).1.outcome.isOk = true) :
    ∃ n, n < budget ∧ engine.embed budget path st =
      renderOpened (Setting.walk ⟨engine.registry, engine.limits, engine.embed n⟩
        template.nodes) st := by
  cases budget with
  | zero => cases hok
  | succ n =>
    refine ⟨n, Nat.lt_succ_self n, ?_⟩
    rw [embed_succ] at hok
    rw [embed_succ]
    by_cases hfull : engine.limits.maxIncludeDepth ≤ st.includeDepth
    · rw [opening_of_full hfull] at hok
      cases hok
    · exact opening_of_fetch (Nat.not_le.mp hfull) hfetch

/-- What an include comes to without an error, the nodes of the template come to after any chain and
any output. -/
theorem walk_of_embed (hpassing : (pasting engine.limits).Passing engine.registry)
    {st st' after : RenderState} {text : String} {flow : Flow}
    (hfetch : engine.fetch path = .ok template) (hbooks : st'.books = st.books)
    (hscope : st'.scope = st.scope) (hflag : st.interpolating = false)
    (hembed : engine.setting.embed path st' = (⟨text, .ok flow⟩, after)) (chain : Chain)
    (out : String) :
    ∃ after', engine.setting.walk template.nodes chain out st = ⟨out ++ text, .ok flow, after'⟩ ∧
      after'.scope = after.scope := by
  have hok : (engine.embed engine.limits.maxIncludeDepth path st').1.outcome.isOk = true := by
    show (engine.setting.embed path st').1.outcome.isOk = true
    rw [hembed]
    rfl
  obtain ⟨n, hn, hopened⟩ := embed_of_isOk hfetch hok
  -- the two walks begin with the same variables and with the flag off
  have hbegin : (pasting engine.limits).At st.books.included st.books
      (RenderState.note { st' with interpolating := false, includeDepth := st'.includeDepth + 1 }
        .passBegins) st := by
    refine ⟨⟨hflag, rfl, Nat.le_succ _⟩, ?_, rfl, ?_, trivial⟩
    · rw [RenderState.books_note, ← hbooks]
      rfl
    · rw [RenderState.scope_note]
      exact hscope.symm
  rw [hopened] at hok
  obtain ⟨hout, houtcome, hstate⟩ := Coupling.walk hpassing (embed_pasting hpassing hn.le _)
    template.nodes _ _ hbegin.books rfl none "" _ _ hbegin fun _ => hok
  obtain ⟨hrendered, hafter⟩ := Prod.mk.inj (hopened.symm.trans hembed)
  obtain ⟨htext, hflow⟩ := Rendered.mk.inj hrendered
  have hscopes := congrArg RenderState.scope hafter
  refine ⟨_, ?_, hstate.scope.trans ((RenderState.scope_note _ _).symm.trans hscopes)⟩
  rw [setting, Setting.walk_of_none_empty (by rw [houtcome]; exact hok), Walk.after, hout,
    houtcome, htext, hflow]

/-- An include that succeeds among its siblings could be pasted there. -/
theorem walk_pasted (hpassing : (pasting engine.limits).Passing engine.registry)
    (hinclude : engine.registry.get? "cfinclude" = some Builtin.includeTag)
    (hfetch : engine.fetch path = .ok template) (htag : tag.Includes path)
    (hpath : '#' ∉ path.toList) {post : List Node} {chain : Chain} {out : String}
    {st : RenderState} (hflag : st.interpolating = false)
    (hok : (engine.setting.walk (.void tag :: post) chain out st).outcome.isOk = true) :
    Walk.Agrees (engine.setting.walk (.void tag :: post) chain out st)
      (engine.setting.walk (template.nodes ++ post) chain out st) := by
  have hrestores : ∀ path, Render.Restores (engine.setting.embed path) := engine.embed_restores _
  have hleft := Setting.books_node hrestores (.void tag) chain out st
  have hright := Setting.walk_restores hrestores template.nodes chain out st
  obtain ⟨journal, hvisit⟩ := engine.setting.visit_include hinclude htag hpath
    (Setting.regions Setting.emptyWalk []) chain out st
  rcases hembed : engine.setting.embed path { st with journal } with ⟨⟨text, outcome⟩, after⟩
  obtain ⟨left, hstep, hscope⟩ := hvisit _ _ hembed
  have hnode : engine.setting.node (.void tag) chain out st =
      .ofRendered out ⟨text, outcome⟩ left := hstep
  rw [hnode] at hleft
  rw [Setting.walk, hnode] at hok
  rw [Setting.walk, hnode]
  rcases outcome with error | flow
  · cases hok
  have hbooks : RenderState.books { st with journal } = st.books := rfl
  obtain ⟨right, hpasted, hscope'⟩ :=
    walk_of_embed hpassing hfetch hbooks rfl hflag hembed chain out
  have happend := engine.setting.walk_append template.nodes chain out st
  rw [hpasted] at hright happend
  have hscopes : right.scope = left.scope := hscope'.trans hscope.symm
  -- the siblings after the include are rendered if the template proceeds
  by_cases hproceed : flow = .proceed
  · subst hproceed
    rcases happend with ⟨chain', -, happend⟩ | ⟨hends, -⟩
    · have hat : (pasting engine.limits).At st.books st.books left right :=
        ⟨⟨rfl, rfl, Nat.le_refl _⟩, hleft, hright, hscopes, trivial⟩
      have hpost : Walk.Agrees (engine.setting.walk post none (out ++ text) left)
          (engine.setting.walk post none (out ++ text) right) :=
        (Coupling.walk hpassing (embed_pasting hpassing (Nat.le_refl _) _) post _ _ hat.books rfl
          none _ _ _ hat fun _ => hok).agrees
      rw [happend post, Setting.walk_of_none (by rw [hpost.outcome]; exact hok)]
      exact hpost
    · exact absurd rfl hends
  · rcases happend with ⟨_, hproceeds, -⟩ | ⟨-, happend⟩
    · exact absurd (Except.ok.inj hproceeds) hproceed
    · rw [happend post]
      cases flow with
      | proceed => exact absurd rfl hproceed
      | breakLoop => exact ⟨rfl, rfl, hscopes⟩
      | abort => exact ⟨rfl, rfl, hscopes⟩

/-- So it could after any nodes. -/
theorem walk_append_pasted (hpassing : (pasting engine.limits).Passing engine.registry)
    (hinclude : engine.registry.get? "cfinclude" = some Builtin.includeTag)
    (hfetch : engine.fetch path = .ok template) (htag : tag.Includes path)
    (hpath : '#' ∉ path.toList) {pre post : List Node} {chain : Chain} {out : String}
    {st : RenderState} (hflag : st.interpolating = false)
    (hok : (engine.setting.walk (pre ++ .void tag :: post) chain out st).outcome.isOk = true) :
    Walk.Agrees (engine.setting.walk (pre ++ .void tag :: post) chain out st)
      (engine.setting.walk (pre ++ (template.nodes ++ post)) chain out st) := by
  have hrestores : ∀ path, Render.Restores (engine.setting.embed path) := engine.embed_restores _
  have hbefore := Setting.walk_restores hrestores pre chain out st
  have hflag' : (engine.setting.walk pre chain out st).state.interpolating = false :=
    (congrArg Books.interpolating hbefore).trans hflag
  -- the two rows are the same up to the include, or end before it
  rcases engine.setting.walk_append pre chain out st with ⟨chain', -, happend⟩ | ⟨-, happend⟩
  · rw [happend] at hok
    rw [happend, happend]
    exact walk_pasted hpassing hinclude hfetch htag hpath hflag' hok
  · rw [happend, happend]
    exact ⟨rfl, rfl, rfl⟩

/-- With the built-in tags an include that succeeds could be pasted: with the nodes of the template
in its place, a row that is rendered with references not replaced comes to the same output and flow,
and leaves the same variables. -/
theorem run_pasted {loader : Loader} {limits : Limits} {source : String}
    (hload : loader path = .ok source)
    (hparse : Engine.parse ⟨Builtin.registry, loader, limits⟩ source = .ok template)
    (hpath : '#' ∉ path.toList) (htag : tag.Includes path) {pre post : List Node}
    {st : RenderState} (hflag : st.interpolating = false) {text : String} {flow : Flow}
    (hok : (Engine.run ⟨Builtin.registry, loader, limits⟩ ⟨pre ++ .void tag :: post⟩ st).1 =
      ⟨text, .ok flow⟩) :
    (Engine.run ⟨Builtin.registry, loader, limits⟩ ⟨pre ++ template.nodes ++ post⟩ st).1 =
        ⟨text, .ok flow⟩ ∧
      (Engine.run ⟨Builtin.registry, loader, limits⟩ ⟨pre ++ template.nodes ++ post⟩ st).2.scope =
        (Engine.run ⟨Builtin.registry, loader, limits⟩ ⟨pre ++ .void tag :: post⟩ st).2.scope := by
  have hfetch : Engine.fetch ⟨Builtin.registry, loader, limits⟩ path = .ok template :=
    fetch_eq_ok_iff.mpr ⟨source, hload, hparse⟩
  rw [List.append_assoc]
  obtain ⟨journal, hnote⟩ := st.note_eq .passBegins
  have hflag' : (st.note .passBegins).interpolating = false := by rw [hnote, hflag]
  unfold run Setting.pass at hok ⊢
  obtain ⟨hout, houtcome⟩ := Rendered.mk.inj hok
  have hpasted := walk_append_pasted (pasting_passing limits) rfl hfetch htag hpath hflag'
    (by rw [houtcome]; rfl)
  refine ⟨?_, ?_⟩
  · show Rendered.mk _ _ = _
    rw [hpasted.out, hpasted.outcome]
    exact hok
  · rw [RenderState.scope_note, RenderState.scope_note]
    exact hpasted.scope

/-- An include that binds a variable for what follows it. -/
theorem run_pasted_of_set :
    let loader : Loader := fun path =>
      if path = "inner" then .ok "b<cfset x='1'>" else .error ⟨path⟩
    let engine : Engine := ⟨Builtin.registry, loader, {}⟩
    let tag : Tag := ⟨"cfinclude", .ofList [("template", "inner")], "", ⟨1, 31, 1, 2⟩⟩
    let post : List Node :=
      [.block ⟨"cfoutput", .empty, "", ⟨31, 41, 1, 32⟩⟩ [.interpolation "x" ⟨41, 44, 1, 42⟩]]
    ∃ template, engine.parse "b<cfset x='1'>" = .ok template ∧
      (engine.run ⟨[.text "a"] ++ .void tag :: post⟩ (.start .empty)).1 = ⟨"ab1", .ok .proceed⟩ ∧
      (engine.run ⟨[.text "a"] ++ template.nodes ++ post⟩ (.start .empty)).1 =
        ⟨"ab1", .ok .proceed⟩ := by
  intro loader engine tag post
  have hparses : (engine.parse "b<cfset x='1'>").isOk = true := by decide +kernel
  have htext : (engine.run ⟨[.text "a"] ++ .void tag :: post⟩ (.start .empty)).1.text = "ab1" := by
    decide +kernel
  have hflow : (engine.run ⟨[.text "a"] ++ .void tag :: post⟩ (.start .empty)).1.outcome.toOption =
      some .proceed := by decide +kernel
  have hok : (engine.run ⟨[.text "a"] ++ .void tag :: post⟩ (.start .empty)).1 =
      ⟨"ab1", .ok .proceed⟩ := by
    rcases hr : (engine.run ⟨[.text "a"] ++ .void tag :: post⟩ (.start .empty)).1 with
      ⟨text, error | flow⟩
    · rw [hr] at hflow
      cases hflow
    · rw [hr] at htext hflow
      cases htext
      cases hflow
      exact hr
  cases hparse : engine.parse "b<cfset x='1'>" with
  | error e =>
    rw [hparse] at hparses
    cases hparses
  | ok template =>
    have hload : loader "inner" = .ok "b<cfset x='1'>" := rfl
    have htag : tag.Includes "inner" := ⟨rfl, .inl (by decide)⟩
    have hpasted := run_pasted hload hparse (by decide) htag rfl hok
    exact ⟨template, rfl, hok, hpasted.1⟩

end Engine

end TagTemplate
