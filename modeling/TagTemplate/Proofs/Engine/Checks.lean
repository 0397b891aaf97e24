import TagTemplate.Proofs.Builtin.Checks
import TagTemplate.Proofs.Engine.Blocks

/-!
# Tags that fail their own checks

A tag can fail because something in it is wrong, or because what it has rendered fails. The tags
that bind variables find out about the former before they render or bind anything, so that such a
failure leaves no trace (`Engine.node_fails_check`). Only a declaration binds its default first, and
leaves it bound when it is not of the type that the tag demands.
-/

namespace TagTemplate

variable {st : RenderState} {e : Element} {h : Handler} {error : RenderError}

/-- The error that something in a tag is wrong: an attribute is missing or has a value that it must
not have, a variable is not bound or not of the type, or a loop is too long. -/
def RenderError.isCheck : RenderError → Bool
  | .missingRequiredParam _ _ => true
  | .invalidParamType _ _ _ => true
  | .missingAttribute _ _ _ => true
  | .invalidAttribute _ _ _ _ _ => true
  | .loopLimitExceeded _ _ => true
  | _ => false

namespace Handler

/-! ## What a tag has rendered -/

/-- What the hooks of a tag have rendered, in order. -/
def renderings (h : Handler) (e : Element) (s : Surroundings) (st : RenderState) : List Rendered :=
  (h.guard e).renderings s st ++
    match (h.guard e).run s st with
    | (.ok true, st₁) =>
      (h.enter e).renderings s st₁ ++
        match (h.enter e).run s st₁ with
        | (.ok (), st₂) =>
          (h.body e).renderings s (h.inBody st₂) ++
            match (h.body e).run s (h.inBody st₂) with
            | (.ok (text, .proceed), st₃) => (h.exit e text).renderings s (st₃.afterBody st₂)
            | _ => []
        | _ => []
    | _ => []

/-- The tag is not guarded, and its handler has no last word on its output. -/
structure IsPlain (h : Handler) (e : Element) : Prop where
  guard : h.guard e = .done true
  exit : ∀ text, h.exit e text = .done text

variable {s : Surroundings}

/-- Such a tag fails before its body, or in it. -/
theorem IsPlain.fails_cases (hplain : h.IsPlain e) (hs : s.Alike s) (hst : st.journal = none)
    (hfails : (h.activate e s st).outcome = .error error) :
    (((h.enter e).run s st).1 = .error error ∧
      h.renderings e s st = (h.enter e).renderings s st ∧
      (h.activate e s st).state = ((h.enter e).run s st).2) ∨
    ∃ st₁, (h.enter e).run s st = (.ok (), st₁) ∧
      ((h.body e).run s (h.inBody st₁)).1 = .error error ∧
      h.renderings e s st =
        (h.enter e).renderings s st ++ (h.body e).renderings s (h.inBody st₁) ∧
      (h.activate e s st).state = ((h.body e).run s (h.inBody st₁)).2.afterBody st₁ := by
  have hguards : (h.guard e).run s st = (.ok true, st) := by
    rw [hplain.guard]
    rfl
  have ha := h.activates_activate e s st
  rw [renderings, hguards, hplain.guard]
  generalize h.activate e s st = a at ha hfails ⊢
  cases ha with
  | guardFails hguard =>
    obtain ⟨hrun, -⟩ := Program.run_of_runHook hs hst hguard
    rw [hguards] at hrun
    cases hrun
  | guardDeclines => cases hfails
  | enterFails hguard henter =>
    obtain ⟨hrun, h₁⟩ := Program.run_of_runHook hs hst hguard
    rw [hguards] at hrun
    cases hrun
    cases hfails
    obtain ⟨henter', -⟩ := Program.run_of_runHook hs hst henter
    simp only [henter']
    exact .inl ⟨trivial, List.append_nil _, trivial⟩
  | @bodyFails _ _ st₂ _ hguard henter hbody =>
    obtain ⟨hrun, h₁⟩ := Program.run_of_runHook hs hst hguard
    rw [hguards] at hrun
    cases hrun
    cases hfails
    obtain ⟨henter', h₂⟩ := Program.run_of_runHook hs hst henter
    have hinside : (h.inBody st₂).journal = none := h₂
    obtain ⟨hbody', -⟩ := Program.run_of_runHook hs hinside hbody
    refine .inr ⟨st₂, henter', ?_⟩
    simp only [henter', hbody', List.append_nil]
    exact ⟨trivial, rfl, trivial⟩
  | bodyEnds => cases hfails
  | @exitFails _ _ _ st₂ st₃ _ hguard henter hbody hexit =>
    obtain ⟨-, h₁⟩ := Program.run_of_runHook hs hst hguard
    obtain ⟨-, h₂⟩ := Program.run_of_runHook hs h₁ henter
    have hinside : (h.inBody st₂).journal = none := h₂
    have hafter : (st₃.afterBody st₂).journal = none :=
      (Program.run_of_runHook hs hinside hbody).2
    obtain ⟨hrun, -⟩ := Program.run_of_runHook hs hafter hexit
    rw [hplain.exit] at hrun
    cases hrun
  | exits => cases hfails

/-- The handler finds out what is wrong with the tag before it renders or changes anything. -/
structure ChecksFirst (h : Handler) (e : Element) : Prop extends h.IsPlain e where
  enter : (h.enter e).ChecksFirst
  body : (h.body e).NeverFailsAlone ∨ (h.enter e).OnlyLooks ∧ (h.body e).ChecksFirst

/-- If the tag fails, and nothing that it has rendered does, it has rendered nothing and changed
nothing. -/
theorem ChecksFirst.activate (hchecks : h.ChecksFirst e) (hs : s.Alike s) (hst : st.journal = none)
    (hfails : (h.activate e s st).outcome = .error error)
    (hok : ∀ rendered ∈ h.renderings e s st, rendered.outcome.isOk = true) :
    h.renderings e s st = [] ∧ (h.activate e s st).state = st := by
  rcases hchecks.toIsPlain.fails_cases hs hst hfails with
    ⟨hrun, hrendered, hstate⟩ | ⟨st₁, henter, hrun, hrendered, hstate⟩
  · rw [hrendered] at hok
    rw [hrendered, hstate]
    exact hchecks.enter s st error ⟨hrun, hok⟩
  · rw [hrendered] at hok
    have halone : (h.body e).FailsAlone s (h.inBody st₁) error :=
      ⟨hrun, fun rendered hmem => hok rendered (List.mem_append_right _ hmem)⟩
    rcases hchecks.body with hnever | ⟨hlooks, hbody⟩
    · exact absurd halone (hnever s _ error)
    · obtain ⟨hnone, hsame⟩ := hlooks s st
      rw [henter] at hsame
      subst hsame
      obtain ⟨hnone', hsame'⟩ := hbody s _ error halone
      rw [hrendered, hstate, hnone, hnone', hsame']
      exact ⟨rfl, rfl⟩

end Handler

namespace Builtin

theorem set_checksFirst (e : Element) : set.ChecksFirst e :=
  ⟨⟨rfl, fun _ => rfl⟩, assignAll_checksFirst e, .inl (Program.neverFailsAlone_rendered .body)⟩

theorem saveContent_checksFirst (e : Element) : saveContent.ChecksFirst e :=
  ⟨⟨rfl, fun _ => rfl⟩, (Program.onlyLooks_done ()).checksFirst,
    .inr ⟨Program.onlyLooks_done (), capture_checksFirst e⟩⟩

theorem loop_checksFirst (hcondition : e.tag.attr? "condition" = none) : loop.ChecksFirst e :=
  ⟨⟨rfl, fun _ => rfl⟩, (Program.onlyLooks_done ()).checksFirst,
    .inr ⟨Program.onlyLooks_done (), loopBody_checksFirst hcondition⟩⟩

/-- A declaration that fails, and not because of what it has rendered, has rendered nothing. It has
changed nothing either, unless it has bound its default and the default is not of the type. -/
theorem param_activate {s : Surroundings} (hs : s.Alike s) (hst : st.journal = none)
    (hfails : (param.activate e s st).outcome = .error error)
    (hok : ∀ rendered ∈ param.renderings e s st, rendered.outcome.isOk = true) :
    param.renderings e s st = [] ∧
    (∀ name value, TakesDefault e.tag st.scope name value →
      checkType e.tag name (st.scope.insert name value) = .error error ∧
      (param.activate e s st).state = { st with scope := st.scope.insert name value }) ∧
    ((∀ name value, ¬TakesDefault e.tag st.scope name value) →
      (param.activate e s st).state = st) := by
  have hplain : param.IsPlain e := ⟨rfl, fun _ => rfl⟩
  rcases hplain.fails_cases hs hst hfails with
    ⟨hrun, hrendered, hstate⟩ | ⟨st₁, -, hrun, hrendered, -⟩
  · rw [hrendered, hstate]
    exact ⟨renderings_of_asks (declare_asks e), run_declare_of_error hrun⟩
  · rw [hrendered] at hok
    have halone : (param.body e).FailsAlone s (param.inBody st₁) error :=
      ⟨hrun, fun rendered hmem => hok rendered (List.mem_append_right _ hmem)⟩
    exact absurd halone (Program.neverFailsAlone_rendered .body s _ error)

end Builtin

/-! ## Among its siblings -/

namespace Setting

variable {s : Setting} {chain : Chain} {out : String} {w : Walk}

/-- What the hooks of a tag have rendered, in order; nothing for a tag that is not registered. -/
def renderings (s : Setting) (e : Element) (st : RenderState) : List Rendered :=
  match s.registry.get? e.tag.name with
  | none => []
  | some h => h.renderings e (s.around e) (st.inside e)

/-- A row that ends at a tag in which something is wrong ends in a hook of the tag. -/
theorem activate_of_node_ends (hget : s.registry.get? e.tag.name = some h)
    (hnode : s.node e.node chain out st = .ends w) (herror : w.outcome = .error error)
    (hcheck : error.isCheck = true) :
    (h.activate e (s.around e) (st.inside e)).outcome = .error error ∧
      w.state = (h.activate e (s.around e) (st.inside e)).state.outside e := by
  have hvisits := s.visits_visit e (s.around e).region chain out st
  rw [node_tag] at hnode
  change s.visit e (s.around e).region chain out st = .ends w at hnode
  rw [hnode] at hvisits
  cases hvisits with
  | unknown =>
    cases herror
    cases hcheck
  | misplaced =>
    cases herror
    cases hcheck
  | @fails h' text _ st₁ hget' _ ha =>
    cases herror
    rw [hget] at hget'
    cases hget'
    change h.activateWithin e (s.around e) st = _ at ha
    by_cases hfits : e.Fits (s.around e).limits st
    · rw [Handler.activateWithin_of_fits hfits] at ha
      exact ⟨congrArg Activation.outcome ha, (congrArg Activation.state ha).symm⟩
    · -- a block for which there is no room fails, but not by its own checks
      rw [Handler.activateWithin_of_full hfits] at ha
      cases ha
      cases hcheck
  | breaksOff => cases herror

end Setting

namespace Builtin

/-- The tag binds variables: a declaration, an assignment, a capture or a loop over elements. -/
def BindsVariables (tag : Tag) : Prop :=
  tag.name = "cfparam" ∨ tag.name = "cfset" ∨ tag.name = "cfsavecontent" ∨
    tag.name = "cfloop" ∧ tag.attr? "condition" = none

/-- All of them but the declaration check first. -/
theorem checksFirst_of_bindsVariables (hbinds : BindsVariables e.tag)
    (hparam : e.tag.name ≠ "cfparam") :
    ∃ h, registry.get? e.tag.name = some h ∧ h.ChecksFirst e := by
  rcases hbinds with hname | hname | hname | ⟨hname, hcondition⟩
  · exact absurd hname hparam
  · rw [hname]
    exact ⟨set, rfl, set_checksFirst e⟩
  · rw [hname]
    exact ⟨saveContent, rfl, saveContent_checksFirst e⟩
  · rw [hname]
    exact ⟨loop, rfl, loop_checksFirst hcondition⟩

end Builtin

namespace Engine

open Builtin

/-- If a tag that binds variables fails because something in it is wrong, and nothing that it has
rendered has failed, then it has rendered nothing, and everything is as before the tag. The one
exception is a declaration that takes its default: the default is not of the type, and it is bound.
-/
theorem node_fails_check (loader : Loader) (limits : Limits) (budget : Nat) {e : Element}
    (hbinds : BindsVariables e.tag) (chain : Chain) (out : String) {st : RenderState}
    (hst : st.journal = none) {w : Walk} {error : RenderError} :
    let s := settingAt ⟨Builtin.registry, loader, limits⟩ budget
    s.node e.node chain out st = .ends w → w.outcome = .error error → error.isCheck = true →
    (∀ rendered ∈ s.renderings e st, rendered.outcome.isOk = true) →
      s.renderings e st = [] ∧
      (e.tag.name = "cfparam" → ∀ name value, TakesDefault e.tag st.scope name value →
        checkType e.tag name (st.scope.insert name value) = .error error ∧
        w.state = { st with scope := st.scope.insert name value }) ∧
      ((e.tag.name = "cfparam" → ∀ name value, ¬TakesDefault e.tag st.scope name value) →
        w.state = st) := by
  intro s hnode herror hcheck hok
  have hs : s.Tidy := settingAt_tidy rfl budget
  have hinside : (st.inside e).journal = none := hst
  by_cases hparam : e.tag.name = "cfparam"
  · have hget : s.registry.get? e.tag.name = some param := by
      rw [hparam]
      rfl
    obtain ⟨hfails, hstate⟩ := Setting.activate_of_node_ends hget hnode herror hcheck
    rw [Setting.renderings, hget] at hok
    obtain ⟨hnone, htakes, hleaves⟩ := param_activate (hs.unwatched e) hinside hfails hok
    rw [Setting.renderings, hget, hstate]
    refine ⟨hnone, fun _ name value hdefault => ?_, fun hno => ?_⟩
    · obtain ⟨htype, hbound⟩ := htakes name value hdefault
      rw [hbound]
      exact ⟨htype, RenderState.outside_inside { st with scope := st.scope.insert name value } e⟩
    · rw [hleaves (hno hparam), RenderState.outside_inside]
  · obtain ⟨h, hget, hchecks⟩ := checksFirst_of_bindsVariables hbinds hparam
    obtain ⟨hfails, hstate⟩ := Setting.activate_of_node_ends (s := s) hget hnode herror hcheck
    have hrenderings : s.renderings e st = h.renderings e (s.around e) (st.inside e) := by
      rw [Setting.renderings, show s.registry.get? e.tag.name = some h from hget]
    rw [hrenderings] at hok
    obtain ⟨hnone, hsame⟩ := hchecks.activate (hs.unwatched e) hinside hfails hok
    rw [hrenderings, hstate, hsame, RenderState.outside_inside]
    exact ⟨hnone, fun h => absurd h hparam, fun _ => rfl⟩

/-- A second form of an assignment is one too many, and a capture needs a name. -/
theorem node_fails_check_of_set :
    let s := settingAt ⟨Builtin.registry, Loader.none, {}⟩ 0
    let span : Span := ⟨0, 0, 1, 1⟩
    let mixed : Element := ⟨⟨"cfset", .ofList [("name", "x"), ("value", "1"), ("other", "2")], "",
      span⟩, none⟩
    let nameless : Element := ⟨⟨"cfsavecontent", .empty, "", span⟩, some [.text "a"]⟩
    (∃ w, s.node mixed.node none "" (.start .empty) = .ends w ∧
      w.outcome = .error (.invalidAttribute "cfset" "other" "2" .mixedForms 1) ∧
      s.renderings mixed (.start .empty) = [] ∧ w.state = .start .empty) ∧
    ∃ w, s.node nameless.node none "" (.start .empty) = .ends w ∧
      w.outcome = .error (.missingAttribute "cfsavecontent" "variable" 1) ∧
      s.renderings nameless (.start .empty) = [] ∧ w.state = .start .empty := by
  intro s span mixed nameless
  have hmixed : s.node mixed.node none "" (.start .empty) =
      .ends ⟨"", .error (.invalidAttribute "cfset" "other" "2" .mixedForms 1), .start .empty⟩ := rfl
  have hnameless : s.node nameless.node none "" (.start .empty) =
      .ends ⟨"", .error (.missingAttribute "cfsavecontent" "variable" 1), .start .empty⟩ := rfl
  have hnone : ∀ rendered ∈ s.renderings mixed (.start .empty), rendered.outcome.isOk = true :=
    List.forall_mem_nil _
  have hnone' : ∀ rendered ∈ s.renderings nameless (.start .empty), rendered.outcome.isOk = true :=
    List.forall_mem_nil _
  obtain ⟨hmixed₁, -, hmixed₂⟩ := node_fails_check Loader.none {} 0 (.inr (.inl rfl)) none "" rfl
    hmixed rfl rfl hnone
  obtain ⟨hnameless₁, -, hnameless₂⟩ := node_fails_check Loader.none {} 0
    (.inr (.inr (.inl rfl))) none "" rfl hnameless rfl rfl hnone'
  exact ⟨⟨_, hmixed, rfl, hmixed₁, hmixed₂ fun h => absurd h (by decide)⟩,
    _, hnameless, rfl, hnameless₁, hnameless₂ fun h => absurd h (by decide)⟩

/-! ## A default that is not of the type -/

/-- A declaration that takes a default which is not of the type fails with the default bound. -/
theorem node_declaration_fails (loader : Loader) (limits : Limits) (budget : Nat) {e : Element}
    (hname : e.tag.name = "cfparam") (chain : Chain) (out : String) {st : RenderState}
    (hst : st.journal = none) (hfits : e.Fits limits st) {name : String} {value : Value}
    {error : RenderError} (htakes : TakesDefault e.tag st.scope name value)
    (htype : checkType e.tag name (st.scope.insert name value) = .error error) :
    let s := settingAt ⟨Builtin.registry, loader, limits⟩ budget
    s.renderings e st = [] ∧ s.node e.node chain out st =
      .ends ⟨out, .error error, { st with scope := st.scope.insert name value }⟩ := by
  intro s
  have hget : s.registry.get? e.tag.name = some param := by
    rw [hname]
    rfl
  let after : RenderState := { st with scope := st.scope.insert name value }
  have hrun : (declare e).run (s.around e) (st.inside e) = (.error error, after.inside e) := by
    have hrequired : e.tag.requireText (st.inside e).scope "name" = .ok name := by
      rw [Tag.requireText, show e.tag.text? (st.inside e).scope "name" = some name from
        htakes.name_eq]
    have hunbound : ¬(st.inside e).scope.contains name = true :=
      Bool.eq_false_iff.mp htakes.unbound
    have hdefault : e.tag.value? (st.inside e).scope "default" = some value := htakes.default_eq
    rw [run_declare, hrequired]
    simp only [if_neg hunbound, hdefault]
    exact congrArg (Prod.mk · _) htype
  have hrendered : (declare e).renderings (s.around e) (st.inside e) = [] :=
    renderings_of_asks (declare_asks e)
  constructor
  · rw [Setting.renderings, hget]
    show [] ++ ((declare e).renderings (s.around e) (st.inside e) ++
      match (declare e).run (s.around e) (st.inside e) with
      | (.ok (), _) => _
      | _ => []) = []
    rw [hrun, hrendered]
    rfl
  · have hinside : (st.inside e).journal = none := hst
    have hguard : (param.guard e).runHook (s.around e) .guard e.tag .guard (st.inside e) =
        (.ok true, st.inside e) := Program.runHook_of_unwatched hinside hinside rfl ..
    have hafter : (after.inside e).journal = none := hst
    have henter := Program.runHook_of_unwatched hinside hafter hrun .enter e.tag .enter
    have ha : param.Activates e (s.around e) (st.inside e) _ := .enterFails hguard henter
    have hwithin : param.activateWithin e (s.around e) st = ⟨"", .error error, after⟩ := by
      rw [Handler.activateWithin_of_fits hfits, ha.eq, Activation.leaving,
        RenderState.outside_inside]
    rw [Setting.node_tag]
    exact (Setting.Visits.fails hget rfl hwithin).eq

/-- With a default that is a text, a numeric variable is left bound to it. -/
theorem declaration_binds_before_check :
    let s := settingAt ⟨Builtin.registry, Loader.none, {}⟩ 0
    let e : Element := ⟨⟨"cfparam", .ofList [("name", "x"), ("default", "abc"),
      ("type", "numeric")], "", ⟨0, 0, 1, 1⟩⟩, none⟩
    ∃ w error, s.node e.node none "" (.start .empty) = .ends w ∧ w.outcome = .error error ∧
      error = .invalidParamType "x" "numeric" 1 ∧ s.renderings e (.start .empty) = [] ∧
      w.state.scope.get? "x" = some (.text "abc") ∧ NameMap.get? (.empty : Scope) "x" = none := by
  intro s e
  have hname : e.tag.text? .empty "name" = some "x" :=
    congrArg some (Scope.expandText_of_noMark _ (by decide))
  have hdefault : e.tag.value? .empty "default" = some (.text "abc") := by
    have hplain : Scope.soleReference? "abc" = none := rfl
    show some (Scope.expand .empty "abc") = _
    rw [Scope.expand, hplain, Scope.expandText_of_noMark _ (by decide)]
  have htakes : TakesDefault e.tag .empty "x" (.text "abc") := ⟨hname, rfl, hdefault⟩
  have htype : checkType e.tag "x" (NameMap.insert .empty "x" (.text "abc")) =
      .error (.invalidParamType "x" "numeric" 1) := by
    have hkind : e.tag.attr? "type" = some "numeric" := rfl
    have hother : isOfType? (Text.foldAscii "numeric")
        (((NameMap.insert (.empty : Scope) "x" (.text "abc")).get? "x").getD .null) =
        some false := by decide +kernel
    exact checkType_of_other hkind hother
  have hst : (RenderState.start .empty).journal = none := rfl
  have hvoid : e.Fits {} (.start .empty) := by rintro ⟨⟩
  obtain ⟨hnone, hnode⟩ :=
    node_declaration_fails Loader.none {} 0 rfl none "" hst hvoid htakes htype
  exact ⟨_, _, hnode, rfl, rfl, hnone, rfl, rfl⟩

end Engine

end TagTemplate
