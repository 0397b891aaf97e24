import TagTemplate.Handler.Recipe
import TagTemplate.Proofs.Builtin.Relocation

/-!
# What recipes can do

Whatever a recipe says, its handler is one that hosts may rely on. It raises by itself only errors
of conditions and the errors that the recipe names, and fails with every error in what it had
rendered (`Recipe.toHandler_raises`). Of the place of its tag it sees no more than the line
(`Recipe.toHandler_ignoresPlaces`).
-/

namespace TagTemplate

/-- The errors that handlers by recipe raise. -/
def RenderError.isOfRecipe : RenderError → Bool
  | .condition _ _ => true
  | .undefinedVariable _ _ => true
  | .handler _ _ => true
  | _ => false

namespace Recipe

/-- An error of a recipe. -/
def OfRecipe (e : RenderError) : Prop := e.isOfRecipe = true

variable (r : Recipe)

/-! ## Errors -/

theorem leaveTrace_raises (letter : String) : (r.leaveTrace letter).Raises OfRecipe := by
  unfold leaveTrace
  split
  · exact trivial
  · exact fun _ => trivial

theorem failWith_raises (tag : Tag) (message : Option String) :
    (failWith tag message).Raises OfRecipe := by
  cases message with
  | none => exact trivial
  | some message => exact rfl

theorem guardHook_raises (e : Element) : (r.guardHook e).Raises OfRecipe := by
  refine (r.leaveTrace_raises "g").andThen fun _ => ?_
  cases r.guard with
  | none => exact trivial
  | some condition =>
    exact fun view => .ofExcept
      (Tag.failsOnly_conditionHolds (fun _ => rfl) (fun _ => rfl) condition view.scope)

/-- Passes over the children raise what comes after them does. -/
theorem repeatBody_raises {onward : String → Program (String × Flow)}
    (honward : ∀ out, (onward out).Raises OfRecipe) (passes : Nat) (out : String) :
    (repeatBody passes out onward).Raises OfRecipe := by
  induction passes generalizing out with
  | zero => exact honward out
  | succ passes ih =>
    refine ⟨fun _ _ => rfl, fun text flow => ?_⟩
    cases flow with
    | proceed => exact ih (out ++ text)
    | breakLoop => exact trivial
    | abort => exact trivial

theorem embedAndEnd_raises (out : String) : (r.embedAndEnd out).Raises OfRecipe := by
  unfold embedAndEnd
  split
  · exact trivial
  · refine ⟨fun _ _ => rfl, fun text flow => ?_⟩
    cases flow with
    | _ => exact trivial

theorem exitHook_raises (e : Element) (text : String) : (r.exitHook e text).Raises OfRecipe := by
  refine (r.leaveTrace_raises "x").andThen fun _ =>
    (failWith_raises e.tag r.exitFailure).andThen fun _ => ?_
  cases r.finish with
  | none => exact trivial
  | some finish => exact trivial

/-- A handler by recipe raises errors of a recipe, and passes on all others. -/
theorem toHandler_raises : r.toHandler.Raises OfRecipe where
  guard := r.guardHook_raises
  enter e := (r.leaveTrace_raises "e").andThen fun _ => failWith_raises e.tag r.enterFailure
  body e := (r.leaveTrace_raises "b").andThen fun _ =>
    (failWith_raises e.tag r.bodyFailure).andThen fun _ =>
      repeatBody_raises r.embedAndEnd_raises r.passes ""
  exit := r.exitHook_raises

/-! ## Places -/

/-- A handler by recipe sees of a place no more than its line. -/
theorem toHandler_ignoresPlaces {f : Span → Span} (hf : ∀ span, (f span).line = span.line) :
    r.toHandler.IgnoresPlaces f := by
  intro e
  refine ⟨?_, rfl, rfl, rfl⟩
  show r.guardHook (e.relocate f) = r.guardHook e
  simp only [guardHook, Element.tag_relocate, Tag.conditionHolds_relocate hf]

end Recipe

end TagTemplate
