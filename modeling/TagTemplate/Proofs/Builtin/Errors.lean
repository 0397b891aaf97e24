import TagTemplate.Builtin.Registry
import TagTemplate.Proofs.Handler.Registry
import TagTemplate.Proofs.Render.Failures

/-!
# The errors of the built-in tags

The built-in tags have errors of their own: a condition does not hold up, an attribute is missing, a
loop does not end in time. Errors of other kinds, as that a block nests too deep or that too many
includes are open, are the renderer's. A tag fails with one of them only when it passes it on from
what it had rendered (`registry_raises`, and `registry_honest` for the blocks).
-/

namespace TagTemplate

/-- The errors that tags raise. -/
def RenderError.isOfTag : RenderError → Bool
  | .missingRequiredParam _ _ => true
  | .invalidParamType _ _ _ => true
  | .loopLimitExceeded _ _ => true
  | .missingAttribute _ _ _ => true
  | .invalidAttribute _ _ _ _ _ => true
  | .condition _ _ => true
  | .undefinedVariable _ _ => true
  | .misplaced _ _ _ => true
  | .aborted _ => true
  | _ => false

namespace Builtin

open Program

/-- An error of a tag. -/
def OfTag (e : RenderError) : Prop := e.isOfTag = true

variable {tag : Tag} {scope : Scope}

/-! ## Results -/

theorem failsOnly_requireText (name : String) : FailsOnly OfTag (tag.requireText scope name) := by
  unfold Tag.requireText
  split
  · exact failsOnly_ok _
  · exact failsOnly_error rfl

theorem failsOnly_conditionHolds (source : String) :
    FailsOnly OfTag (tag.conditionHolds source scope) :=
  Tag.failsOnly_conditionHolds (fun _ => rfl) (fun _ => rfl) source scope

theorem failsOnly_checkType (name : String) : FailsOnly OfTag (checkType tag name scope) := by
  unfold checkType
  split
  · exact failsOnly_ok _
  · simp only
    split
    · exact failsOnly_error rfl
    · exact failsOnly_error rfl
    · exact failsOnly_ok _

theorem failsOnly_includePath : FailsOnly OfTag (includePath tag scope) := by
  unfold includePath
  split
  · exact failsOnly_ok _
  · split
    · exact failsOnly_ok _
    · exact failsOnly_error rfl

theorem failsOnly_chosenChild (expression : String) (place : Nat) (fallback : Option Nat)
    (nodes : List Node) : FailsOnly OfTag (chosenChild scope expression place fallback nodes) := by
  induction nodes generalizing place fallback with
  | nil => exact failsOnly_ok _
  | cons node rest ih =>
    rw [chosenChild]
    split
    · exact ih _ _
    · next tag _ =>
      split
      · have hvalue : FailsOnly OfTag (tag.requireText scope "value") := failsOnly_requireText _
        split
        · next herror =>
          rw [herror] at hvalue
          exact hvalue.of_error
        · split
          · exact failsOnly_ok _
          · exact ih _ _
      · split
        · exact ih _ _
        · exact ih _ _

/-! ## Elements of loops -/

theorem failsOnly_finiteNumber (name : String) : FailsOnly OfTag (finiteNumber tag scope name) := by
  unfold finiteNumber
  have htext : FailsOnly OfTag (tag.requireText scope name) := failsOnly_requireText _
  split
  · next herror =>
    rw [herror] at htext
    exact htext.of_error
  · split
    · split
      · exact failsOnly_ok _
      · exact failsOnly_error rfl
    · exact failsOnly_error rfl

theorem failsOnly_numbersBetween (limit : Nat) (first last step : Float) :
    FailsOnly OfTag (numbersBetween tag limit first last step) := by
  unfold numbersBetween
  simp only
  split
  · exact failsOnly_ok _
  · split
    · exact failsOnly_error rfl
    · exact failsOnly_ok _

theorem failsOnly_rangeElements (limit : Nat) :
    FailsOnly OfTag (rangeElements tag scope limit) := by
  unfold rangeElements
  refine FailsOnly.bind (failsOnly_finiteNumber _) fun first => ?_
  refine FailsOnly.bind (failsOnly_finiteNumber _) fun last => ?_
  -- the step is read or it is one, and what follows is the same
  have hnumbers : ∀ step : Float,
      FailsOnly OfTag (if step == 0 then .error (tag.invalid "step" "0" .zeroStep)
        else numbersBetween tag limit first last step) := by
    intro step
    split
    · exact failsOnly_error rfl
    · exact failsOnly_numbersBetween _ _ _ _
  simp only
  split
  · exact FailsOnly.bind (failsOnly_finiteNumber _) hnumbers
  · exact hnumbers 1

theorem failsOnly_withinLimit (limit : Nat) (items : List Value) :
    FailsOnly OfTag (withinLimit tag limit items) := by
  unfold withinLimit
  split
  · exact failsOnly_error rfl
  · exact failsOnly_ok _

theorem failsOnly_arrayElements (v : Value) : FailsOnly OfTag (arrayElements tag v) := by
  unfold arrayElements
  split
  · exact failsOnly_ok _
  · exact failsOnly_error rfl

theorem failsOnly_loopElements (limit : Nat) :
    FailsOnly OfTag (loopElements tag scope limit) := by
  unfold loopElements
  split
  · exact FailsOnly.bind (failsOnly_rangeElements limit) (failsOnly_withinLimit limit)
  · split
    · exact failsOnly_withinLimit _ _
    · split
      · exact FailsOnly.bind (failsOnly_arrayElements _) (failsOnly_withinLimit limit)
      · exact failsOnly_error rfl

/-! ## Hooks -/

theorem conditionGuard_raises (e : Element) : (conditionGuard e).Raises OfTag :=
  .andThen .scope fun _ => .ofExcept (failsOnly_conditionHolds _)

/-- What follows a pass raises what all further passes do. -/
theorem afterPass_raises (out text : String) (flow : Flow)
    {onward : String → Program (String × Flow)} (h : ∀ out, (onward out).Raises OfTag) :
    (afterPass out ⟨text, .ok flow⟩ onward).Raises OfTag := by
  cases flow with
  | proceed => exact h _
  | breakLoop => exact trivial
  | abort => exact trivial

theorem passOver_raises (place : Nat) (items : List Value) (out : String) :
    (passOver tag place items out).Raises OfTag := by
  induction items generalizing place out with
  | nil => exact trivial
  | cons element rest ih =>
    exact ⟨fun _ _ => rfl, fun text flow => afterPass_raises out text flow (ih (place + 1))⟩

theorem passWhile_raises (condition : String) (limit left : Nat) (out : String) :
    (passWhile tag condition limit left out).Raises OfTag := by
  have hcondition : ∀ {scope e}, tag.conditionHolds condition scope = .error e → OfTag e :=
    fun h => failsOnly_conditionHolds condition _ h
  induction left generalizing out with
  | zero =>
    rw [passWhile]
    intro view
    simp only
    split
    · next herror => exact hcondition herror
    · exact trivial
    · exact rfl
  | succ left ih =>
    rw [passWhile]
    intro view
    simp only
    split
    · next herror => exact hcondition herror
    · exact trivial
    · exact ⟨fun _ _ => rfl, fun text flow => afterPass_raises out text flow ih⟩

theorem loopBody_raises (e : Element) : (loopBody e).Raises OfTag := by
  intro view
  simp only [bind_eq_andThen, andThen]
  split
  · exact passWhile_raises _ _ _ _
  · exact .andThen .scope fun scope =>
      .andThen (.ofExcept (failsOnly_loopElements _)) fun _ => passOver_raises _ _ _

theorem declare_raises (e : Element) : (declare e).Raises OfTag := by
  unfold declare
  simp only [bind_eq_andThen]
  refine .andThen .scope fun scope =>
    .andThen (.ofExcept (failsOnly_requireText _)) fun name => ?_
  have hcheck : (Program.scope.andThen fun scope =>
      ofExcept (checkType e.tag name scope)).Raises OfTag :=
    .andThen .scope fun _ => .ofExcept (failsOnly_checkType name)
  split
  · split
    · exact rfl
    · exact .andThen trivial fun _ => hcheck
  · exact hcheck

theorem assignAll_raises (e : Element) : (assignAll e).Raises OfTag := by
  unfold assignAll
  simp only [bind_eq_andThen]
  split
  · exact rfl
  · refine .andThen .scope fun scope => ?_
    split
    · split
      · exact rfl
      · exact trivial
    · exact trivial

theorem capture_raises (e : Element) : (capture e).Raises OfTag := by
  unfold capture
  simp only [bind_eq_andThen]
  refine .andThen .scope fun scope =>
    .andThen (.ofExcept (failsOnly_requireText _)) fun name =>
      .andThen (.rendered .body) fun _ => ?_
  split
  · exact trivial
  · exact trivial

theorem switchBody_raises (e : Element) : (switchBody e).Raises OfTag := by
  unfold switchBody
  simp only [bind_eq_andThen]
  refine .andThen .scope fun scope =>
    .andThen (.ofExcept (failsOnly_requireText _)) fun expression =>
    .andThen (.ofExcept (failsOnly_chosenChild _ _ _ _)) fun chosen => ?_
  split
  · exact .rendered _
  · exact trivial

theorem describeVariable_raises (e : Element) (text : String) :
    (describeVariable e text).Raises OfTag := by
  unfold describeVariable
  refine .andThen .scope fun scope => ?_
  split
  · exact trivial
  · exact trivial

theorem embedTemplate_raises (e : Element) : (embedTemplate e).Raises OfTag :=
  .andThen .scope fun _ => .andThen (.ofExcept failsOnly_includePath) fun path => .embedded path

theorem abortRender_raises (e : Element) : (abortRender e).Raises OfTag := by
  unfold abortRender
  refine .andThen .scope fun scope => ?_
  split
  · exact rfl
  · exact trivial

/-! ## The registry -/

/-- Each of the built-in tags raises only errors of tags. -/
theorem handlers_raises : ∀ entry ∈ handlers, entry.2.Raises OfTag := by
  have hguard : ∀ _ : Element, (Program.done true).Raises OfTag := fun _ => trivial
  have henter : ∀ _ : Element, (Program.done ()).Raises OfTag := fun _ => trivial
  have hbody : ∀ _ : Element, (Program.rendered .body).Raises OfTag := fun _ => .rendered .body
  have hexit : ∀ (_ : Element) (text : String), (Program.done text).Raises OfTag :=
    fun _ _ => trivial
  have houtside : ∀ e, (outsideSwitch e).Raises OfTag := fun _ => rfl
  simp only [handlers, List.forall_mem_cons, List.not_mem_nil, false_implies, implies_true,
    and_true]
  refine ⟨⟨hguard, henter, hbody, hexit⟩, ⟨hguard, henter, hbody, describeVariable_raises⟩,
    ⟨conditionGuard_raises, henter, hbody, hexit⟩,
    ⟨conditionGuard_raises, henter, hbody, hexit⟩,
    ⟨hguard, henter, hbody, hexit⟩,
    ⟨hguard, henter, loopBody_raises, hexit⟩,
    ⟨hguard, henter, switchBody_raises, hexit⟩,
    ⟨hguard, houtside, hbody, hexit⟩,
    ⟨hguard, houtside, hbody, hexit⟩,
    ⟨hguard, declare_raises, hbody, hexit⟩,
    ⟨hguard, assignAll_raises, hbody, hexit⟩,
    ⟨hguard, henter, capture_raises, hexit⟩,
    ⟨hguard, henter, embedTemplate_raises, hexit⟩,
    ⟨hguard, henter, fun _ => trivial, hexit⟩,
    ⟨hguard, henter, abortRender_raises, hexit⟩⟩

/-- So does each handler of the registry. -/
theorem registry_raises : registry.Raises OfTag := by
  have hempty : ∀ name h, Registry.empty.get? name = some h → h.Raises OfTag :=
    fun _ _ hget => nomatch hget
  exact Registry.of_get?_registerAll hempty handlers_raises

/-- That a block nests too deep is no error of a tag, and so the registry is honest. -/
theorem registry_honest : registry.Honest := by
  have hkind : ∀ e, OfTag e → e.isTooDeep = false := by
    intro e he
    cases e with
    | tooDeep limit line => cases he
    | _ => rfl
  exact fun name h hget => (registry_raises name h hget).honest hkind

end Builtin

end TagTemplate
