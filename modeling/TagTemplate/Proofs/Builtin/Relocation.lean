import TagTemplate.Proofs.Builtin.Errors
import TagTemplate.Proofs.Render.Relocation

/-!
# The built-in tags elsewhere

A built-in tag uses its place in the source for the line of an error and for nothing else. So it
reacts in the same way when it has another span in the same line, and its children have
(`registry_ignoresPlaces`).
-/

namespace TagTemplate

variable {f : Span → Span} (hf : ∀ span, (f span).line = span.line) (tag : Tag) (scope : Scope)

/-! ## Tags -/

@[simp]
theorem Element.tag_relocate (e : Element) : (e.relocate f).tag = e.tag.relocate f := rfl

namespace Tag

@[simp]
theorem name_relocate : (tag.relocate f).name = tag.name := rfl

@[simp]
theorem attributes_relocate : (tag.relocate f).attributes = tag.attributes := rfl

@[simp]
theorem raw_relocate : (tag.relocate f).raw = tag.raw := rfl

@[simp]
theorem attr?_relocate (name : String) : (tag.relocate f).attr? name = tag.attr? name := rfl

@[simp]
theorem value?_relocate (name : String) :
    (tag.relocate f).value? scope name = tag.value? scope name := rfl

@[simp]
theorem text?_relocate (name : String) :
    (tag.relocate f).text? scope name = tag.text? scope name := rfl

include hf

theorem line_relocate : (tag.relocate f).span.line = tag.span.line := hf tag.span

theorem requireText_relocate (name : String) :
    (tag.relocate f).requireText scope name = tag.requireText scope name := by
  simp only [requireText, text?_relocate, name_relocate, line_relocate hf]

theorem conditionHolds_relocate (source : String) :
    (tag.relocate f).conditionHolds source scope = tag.conditionHolds source scope := by
  simp only [conditionHolds, line_relocate hf]

theorem invalid_relocate (attr value : String) (fault : AttributeFault) :
    (tag.relocate f).invalid attr value fault = tag.invalid attr value fault := by
  simp only [invalid, name_relocate, line_relocate hf]

end Tag

namespace Builtin

open Tag Element

include hf

/-! ## Loops -/

theorem finiteNumber_relocate (name : String) :
    finiteNumber (tag.relocate f) scope name = finiteNumber tag scope name := by
  simp only [finiteNumber, requireText_relocate hf, invalid_relocate hf]

theorem loopLimitExceeded_relocate (limit : Nat) :
    loopLimitExceeded (tag.relocate f) limit = loopLimitExceeded tag limit := by
  rw [loopLimitExceeded, line_relocate hf, loopLimitExceeded]

theorem rangeElements_relocate (limit : Nat) :
    rangeElements (tag.relocate f) scope limit = rangeElements tag scope limit := by
  simp only [rangeElements, numbersBetween, finiteNumber_relocate hf, attributes_relocate,
    invalid_relocate hf, loopLimitExceeded_relocate hf]

theorem loopElements_relocate (limit : Nat) :
    loopElements (tag.relocate f) scope limit = loopElements tag scope limit := by
  have hwithin : withinLimit (tag.relocate f) limit = withinLimit tag limit := by
    funext items
    rw [withinLimit, loopLimitExceeded_relocate hf, withinLimit]
  have harray : arrayElements (tag.relocate f) = arrayElements tag := by
    funext v
    simp only [arrayElements, invalid_relocate hf]
  have hlist : listElements (tag.relocate f) = listElements tag := rfl
  simp only [loopElements, rangeElements_relocate hf, hwithin, harray, hlist, attributes_relocate,
    value?_relocate, name_relocate, line_relocate hf]

omit hf in
theorem passOver_relocate (place : Nat) (items : List Value) (out : String) :
    passOver (tag.relocate f) place items out = passOver tag place items out := by
  induction items generalizing place out with
  | nil => rfl
  | cons element rest ih =>
    have honward : passOver (tag.relocate f) (place + 1) rest = passOver tag (place + 1) rest :=
      funext fun out => ih (place + 1) out
    rw [passOver, passOver, honward]
    rfl

theorem passWhile_relocate (condition : String) (limit left : Nat) (out : String) :
    passWhile (tag.relocate f) condition limit left out =
      passWhile tag condition limit left out := by
  induction left generalizing out with
  | zero =>
    simp only [passWhile, conditionHolds_relocate hf, loopLimitExceeded_relocate hf]
  | succ left ih =>
    have honward : passWhile (tag.relocate f) condition limit left =
        passWhile tag condition limit left := funext ih
    simp only [passWhile, conditionHolds_relocate hf, honward]

theorem loopBody_relocate (e : Element) : loopBody (e.relocate f) = loopBody e := by
  simp only [loopBody, tag_relocate, attr?_relocate, loopElements_relocate hf,
    passOver_relocate, passWhile_relocate hf]

/-! ## Bindings -/

theorem declare_relocate (e : Element) : declare (e.relocate f) = declare e := by
  have hcheck : ∀ name scope,
      checkType (e.tag.relocate f) name scope = checkType e.tag name scope := by
    intro name scope
    simp only [checkType, attr?_relocate, invalid_relocate hf, line_relocate hf]
  simp only [declare, tag_relocate, requireText_relocate hf, value?_relocate, hcheck,
    line_relocate hf]

theorem assignAll_relocate (e : Element) : assignAll (e.relocate f) = assignAll e := by
  simp only [assignAll, tag_relocate, attributes_relocate, name_relocate, text?_relocate,
    value?_relocate, invalid_relocate hf, line_relocate hf]

theorem capture_relocate (e : Element) : capture (e.relocate f) = capture e := by
  simp only [capture, tag_relocate, requireText_relocate hf]

/-! ## Branches and switches -/

theorem conditionGuard_relocate (e : Element) :
    conditionGuard (e.relocate f) = conditionGuard e := by
  simp only [conditionGuard, conditionOf, tag_relocate, attr?_relocate, raw_relocate,
    conditionHolds_relocate hf]

theorem chosenChild_relocate (expression : String) (place : Nat) (fallback : Option Nat)
    (nodes : List Node) : chosenChild scope expression place fallback (relocateAll f nodes) =
      chosenChild scope expression place fallback nodes := by
  have htag : ∀ node : Node, (node.relocate f).tag? = node.tag?.map (Tag.relocate f) := by
    intro node
    cases node <;> rfl
  induction nodes generalizing place fallback with
  | nil => rfl
  | cons node rest ih =>
    rw [relocateAll, chosenChild, chosenChild, htag]
    cases node.tag? with
    | none => exact ih _ _
    | some tag =>
      simp only [Option.map_some, name_relocate, requireText_relocate hf, caseMatches,
        attr?_relocate, ih]
      rfl

theorem switchBody_relocate (e : Element) : switchBody (e.relocate f) = switchBody e := by
  simp only [switchBody, children_relocate, chosenChild_relocate hf, tag_relocate,
    requireText_relocate hf]

theorem outsideSwitch_relocate (e : Element) : outsideSwitch (e.relocate f) = outsideSwitch e := by
  simp only [outsideSwitch, tag_relocate, name_relocate, line_relocate hf]

/-! ## Output and control -/

theorem embedTemplate_relocate (e : Element) : embedTemplate (e.relocate f) = embedTemplate e := by
  simp only [embedTemplate, includePath, tag_relocate, text?_relocate, name_relocate,
    line_relocate hf]

/-! ## The registry -/

/-- None of the built-in tags sees that spans in the same lines are others. -/
theorem handlers_ignorePlaces : ∀ entry ∈ handlers, entry.2.IgnoresPlaces f := by
  simp only [handlers, List.forall_mem_cons, List.not_mem_nil, false_implies, implies_true,
    and_true]
  refine ⟨fun e => ⟨rfl, rfl, rfl, rfl⟩,
    fun e => ⟨rfl, rfl, rfl, rfl⟩,
    fun e => ⟨conditionGuard_relocate hf e, rfl, rfl, rfl⟩,
    fun e => ⟨conditionGuard_relocate hf e, rfl, rfl, rfl⟩,
    fun e => ⟨rfl, rfl, rfl, rfl⟩,
    fun e => ⟨rfl, rfl, loopBody_relocate hf e, rfl⟩,
    fun e => ⟨rfl, rfl, switchBody_relocate hf e, rfl⟩,
    fun e => ⟨rfl, outsideSwitch_relocate hf e, rfl, rfl⟩,
    fun e => ⟨rfl, outsideSwitch_relocate hf e, rfl, rfl⟩,
    fun e => ⟨rfl, declare_relocate hf e, rfl, rfl⟩,
    fun e => ⟨rfl, assignAll_relocate hf e, rfl, rfl⟩,
    fun e => ⟨rfl, rfl, capture_relocate hf e, rfl⟩,
    fun e => ⟨rfl, rfl, embedTemplate_relocate hf e, rfl⟩,
    fun e => ⟨rfl, rfl, rfl, rfl⟩,
    fun e => ⟨rfl, rfl, rfl, rfl⟩⟩

/-- Nor does any handler of the registry. -/
theorem registry_ignoresPlaces :
    ∀ name h, registry.get? name = some h → h.IgnoresPlaces f := by
  have hempty : ∀ name h, Registry.empty.get? name = some h → h.IgnoresPlaces f :=
    fun _ _ hget => nomatch hget
  exact Registry.of_get?_registerAll hempty (handlers_ignorePlaces hf)

end Builtin

end TagTemplate
