import TagTemplate.Proofs.Builtin.Requests
import TagTemplate.Proofs.Render.Flows
import TagTemplate.Proofs.Tree.Enclosure
import TagTemplate.Proofs.Tree.Aborts

/-!
# The flows of the built-in tags

A break comes from `cfbreak` and an abort from `cfabort`. Any other built-in tag comes to one of
these only when something does that it has rendered (`registry_handsOn`), and a loop does not even
then come to a break (`loop_catches`).
-/

namespace TagTemplate.Builtin

open Program

variable {flow : Flow} {answers : Rendered → Prop}

/-! ## Steps of bodies -/

theorem passOn_avoids {rendered : Rendered} (h : rendered.Avoids flow) :
    (passOn rendered).Yields answers (·.2 ≠ flow) :=
  Yields.passOn fun _ hflow heq => h (hflow.trans (congrArg Except.ok heq))

theorem rendered_avoids (region : Region) :
    (Program.rendered region).Yields (Rendered.Avoids flow) (·.2 ≠ flow) :=
  fun _ hanswer => passOn_avoids hanswer

/-! ## Loops -/

/-- After a pass that breaks a loop proceeds, and after any other one it comes to a flow only if the
pass did. -/
theorem afterPass_avoids (hflow : flow ≠ .proceed) {out : String} {rendered : Rendered}
    (hrendered : flow = .breakLoop ∨ rendered.Avoids flow)
    {onward : String → Program (String × Flow)}
    (h : ∀ out, (onward out).Yields answers (·.2 ≠ flow)) :
    (afterPass out rendered onward).Yields answers (·.2 ≠ flow) := by
  unfold afterPass
  split
  · trivial
  · exact h _
  · exact hflow.symm
  · next habort =>
    rintro rfl
    rcases hrendered with hbreak | havoids
    · cases hbreak
    · exact havoids habort

theorem passOver_avoids (hflow : flow ≠ .proceed)
    (hanswers : ∀ rendered, answers rendered → flow = .breakLoop ∨ rendered.Avoids flow)
    (tag : Tag) (place : Nat) (items : List Value) (out : String) :
    (passOver tag place items out).Yields answers (·.2 ≠ flow) := by
  induction items generalizing place out with
  | nil => exact hflow.symm
  | cons element rest ih =>
    exact fun rendered h => afterPass_avoids hflow (hanswers rendered h) (ih (place + 1))

theorem passWhile_avoids (hflow : flow ≠ .proceed)
    (hanswers : ∀ rendered, answers rendered → flow = .breakLoop ∨ rendered.Avoids flow)
    (tag : Tag) (condition : String) (limit left : Nat) (out : String) :
    (passWhile tag condition limit left out).Yields answers (·.2 ≠ flow) := by
  induction left generalizing out with
  | zero =>
    rw [passWhile]
    intro view
    simp only
    split
    · trivial
    · exact hflow.symm
    · trivial
  | succ left ih =>
    rw [passWhile]
    intro view
    simp only
    split
    · trivial
    · exact hflow.symm
    · exact fun rendered h => afterPass_avoids hflow (hanswers rendered h) ih

theorem loopBody_avoids (hflow : flow ≠ .proceed)
    (hanswers : ∀ rendered, answers rendered → flow = .breakLoop ∨ rendered.Avoids flow)
    (e : Element) : (loopBody e).Yields answers (·.2 ≠ flow) := by
  intro view
  simp only [bind_eq_andThen, andThen]
  split
  · exact passWhile_avoids hflow hanswers _ _ _ _ _
  · refine Yields.after _ fun scope => Yields.after _ fun elements => ?_
    exact passOver_avoids hflow hanswers _ _ _ _

/-- A loop never comes to a break, whatever its passes come to. -/
theorem loop_catches (e : Element) : (loop.body e).Yields (fun _ => True) (·.2 ≠ .breakLoop) :=
  loopBody_avoids (by decide) (fun _ _ => .inl rfl) e

/-! ## The other bodies -/

theorem capture_avoids (e : Element) :
    (capture e).Yields (Rendered.Avoids flow) (·.2 ≠ flow) := by
  unfold capture
  simp only [bind_eq_andThen]
  refine Yields.after _ fun scope => Yields.after _ fun name => ?_
  refine (rendered_avoids _).andThen fun result hresult => ?_
  split
  · exact hresult
  · exact hresult

theorem switchBody_avoids (hflow : flow ≠ .proceed) (e : Element) :
    (switchBody e).Yields (Rendered.Avoids flow) (·.2 ≠ flow) := by
  unfold switchBody
  simp only [bind_eq_andThen]
  refine Yields.after _ fun scope => Yields.after _ fun expression => Yields.after _ fun chosen => ?_
  split
  · exact rendered_avoids _
  · exact hflow.symm

theorem embedTemplate_avoids (e : Element) :
    (embedTemplate e).Yields (Rendered.Avoids flow) (·.2 ≠ flow) :=
  Yields.after _ fun _ => Yields.after _ fun _ _ hanswer => passOn_avoids hanswer

/-- An abort comes to nothing but an abort. -/
theorem abortRender_yields (e : Element) :
    (abortRender e).Yields answers (· = ("", Flow.abort)) := by
  intro view
  simp only [andThen]
  split
  · trivial
  · rfl

/-! ## The registry -/

/-- The name of the tag that comes to a flow by itself. -/
def flowName : Flow → Option String
  | .proceed => none
  | .breakLoop => some breakName
  | .abort => some abortName

/-- Each of the built-in tags but one comes to a flow only when something in its body does. -/
theorem handlers_handOn (hflow : flow ≠ .proceed) : ∀ entry ∈ handlers,
    some (Text.foldAscii entry.1) = flowName flow ∨ entry.2.HandsOn flow := by
  have hbody : ∀ e : Element,
      (Program.rendered .body).Yields (Rendered.Avoids flow) (·.2 ≠ flow) :=
    fun _ => rendered_avoids _
  have hloop : loop.HandsOn flow := loopBody_avoids hflow fun _ h => .inr h
  have hbreak : some (Text.foldAscii "cfbreak") = flowName flow ∨ breakTag.HandsOn flow := by
    by_cases h : flow = .breakLoop
    · rw [h]
      exact .inl rfl
    · exact .inr fun _ => Ne.symm h
  have habort : some (Text.foldAscii "cfabort") = flowName flow ∨ abortTag.HandsOn flow := by
    by_cases h : flow = .abort
    · rw [h]
      exact .inl rfl
    · refine .inr fun e => (abortRender_yields e).mono ?_
      rintro _ rfl
      exact Ne.symm h
  simp only [handlers, List.forall_mem_cons, List.not_mem_nil, false_implies, implies_true,
    and_true]
  exact ⟨.inr hbody, .inr hbody, .inr hbody, .inr hbody, .inr hbody, .inr hloop,
    .inr (switchBody_avoids hflow), .inr hbody, .inr hbody, .inr hbody, .inr hbody,
    .inr capture_avoids, .inr embedTemplate_avoids, hbreak, habort⟩

theorem registry_handsOn (hflow : flow ≠ .proceed) {name : String} {h : Handler}
    (hget : registry.get? name = some h) (hname : some name ≠ flowName flow) : h.HandsOn flow := by
  have hempty : ∀ name h, Registry.empty.get? name = some h →
      some name = flowName flow ∨ h.HandsOn flow := fun _ _ hget => nomatch hget
  have hall := Registry.of_get?_registerEach hempty (handlers_handOn hflow) name h hget
  exact hall.resolve_left hname

theorem get?_loop : registry.get? loopName = some loop := rfl

end TagTemplate.Builtin
