import TagTemplate.Builtin.Registry
import TagTemplate.Proofs.Handler.Registry
import TagTemplate.Proofs.Names.Bindings
import TagTemplate.Proofs.Render.Effects

/-!
# What the built-in tags bind

Four of the built-in tags bind variables. Two attributes hold a name to be bound after references in
it have been replaced, those of `cfloop` are names as they stand, and `cfset` can bind its
attributes themselves. So the names that a tag can bind are known from the tag, except where a
reference stands in one (`boundNames`), and a tag has any effect that binding one of them has
(`registry_hasAt`).
-/

namespace TagTemplate.Builtin

open Program

/-- An assignment by `name` and `value`. -/
def isNamed (tag : Tag) : Bool := (tag.attr? "name").isSome && (tag.attr? "value").isSome

/-- The attribute values of a tag that are expanded to a name of a variable, which is then bound. -/
def nameGivers (tag : Tag) : List String :=
  if tag.name = "cfparam" then (tag.attr? "name").toList
  else if tag.name = "cfset" then if isNamed tag then (tag.attr? "name").toList else []
  else if tag.name = "cfsavecontent" then (tag.attr? "variable").toList
  else []

/-- The names in a tag that are bound as they stand. -/
def fixedNames (tag : Tag) : List String :=
  if tag.name = "cfset" then if isNamed tag then [] else tag.attributes.toList.map Prod.fst
  else if tag.name = "cfloop" then (tag.attr? "item").toList ++ (tag.attr? "index").toList
  else []

/-- The names that a tag can bind. -/
def boundNames (tag : Tag) (scope : Scope) : List String :=
  (nameGivers tag).map scope.expandText ++ fixedNames tag

variable {effect : Effect} {embeds : Prop}

/-- Binding the name has the effect, whatever the value. -/
def Allows (effect : Effect) (name : String) : Prop :=
  ∀ scope value, effect.rel scope (scope.insert name value)

/-! ## Hooks -/

theorem has_assign {name : String} (h : Allows effect name) (value : Value) :
    (Program.assign name value).Has effect embeds := ⟨fun scope => h scope value, trivial⟩

theorem conditionGuard_has (e : Element) : (conditionGuard e).Has effect embeds :=
  .andThen .scope fun _ => .ofExcept _

/-- The text of an attribute that must be there is expanded from what the tag says. -/
theorem text?_of_requireText {tag : Tag} {scope : Scope} {attr text : String}
    (h : tag.requireText scope attr = .ok text) : tag.text? scope attr = some text := by
  unfold Tag.requireText at h
  split at h
  · next htext =>
    cases h
    exact htext
  · cases h

theorem declare_has {e : Element}
    (h : ∀ scope name, e.tag.text? scope "name" = some name → Allows effect name) :
    (declare e).Has effect embeds := by
  unfold declare
  simp only [bind_eq_andThen]
  refine .andThen .scope fun scope => .ofExcept_andThen fun name hname => ?_
  have hcheck : (Program.scope.andThen fun scope =>
      ofExcept (checkType e.tag name scope)).Has effect embeds :=
    .andThen .scope fun _ => .ofExcept _
  split
  · split
    · trivial
    · exact .andThen (has_assign (h scope name (text?_of_requireText hname)) _) fun _ => hcheck
  · exact hcheck

/-- Binding one name after the other has an effect that binding each has. -/
theorem rel_bindPairs {pairs : List (String × String)}
    (h : ∀ pair ∈ pairs, Allows effect pair.1) (scope : Scope) :
    effect.rel scope (bindPairs pairs scope) := by
  induction pairs generalizing scope with
  | nil => exact effect.refl scope
  | cons pair rest ih =>
    obtain ⟨hpair, hrest⟩ := List.forall_mem_cons.mp h
    exact effect.trans (hpair scope _) (ih hrest _)

theorem assignAll_has {e : Element}
    (hnamed : isNamed e.tag = true →
      ∀ scope name, e.tag.text? scope "name" = some name → Allows effect name)
    (hpairs : isNamed e.tag = false → ∀ pair ∈ e.tag.attributes.toList, Allows effect pair.1) :
    (assignAll e).Has effect embeds := by
  unfold assignAll
  simp only [bind_eq_andThen]
  split
  · trivial
  · refine .andThen .scope fun scope => ?_
    split
    · next name value hname hvalue =>
      split
      · trivial
      · have hform : isNamed e.tag = true := by
          rw [Tag.text?, Option.map_eq_some_iff] at hname
          rw [Tag.value?, Option.map_eq_some_iff] at hvalue
          obtain ⟨_, hname, -⟩ := hname
          obtain ⟨_, hvalue, -⟩ := hvalue
          rw [isNamed, hname, hvalue]
          rfl
        exact has_assign (hnamed hform scope name hname) value
    · next hnone =>
      -- without one of the two there is nothing to expand, so this is the other form
      have hform : isNamed e.tag = false := by
        rw [isNamed]
        cases hname : e.tag.attr? "name" with
        | none => rfl
        | some name =>
          cases hvalue : e.tag.attr? "value" with
          | none => rfl
          | some value =>
            refine (hnone (scope.expandText name) (scope.expand value) ?_ ?_).elim
            · rw [Tag.text?, hname, Option.map_some]
            · rw [Tag.value?, hvalue, Option.map_some]
      exact ⟨rel_bindPairs (hpairs hform), trivial⟩

theorem capture_has {e : Element}
    (h : ∀ scope name, e.tag.text? scope "variable" = some name → Allows effect name) :
    (capture e).Has effect embeds := by
  unfold capture
  simp only [bind_eq_andThen]
  refine .andThen .scope fun scope => .ofExcept_andThen fun name hname =>
    .andThen (.rendered .body) fun _ => ?_
  split
  · trivial
  · exact .andThen (has_assign (h scope name (text?_of_requireText hname)) _) fun _ => trivial

/-! ## Loops -/

theorem rel_bindElement {tag : Tag} (h : ∀ name ∈ (tag.attr? "item").toList ++
    (tag.attr? "index").toList, Allows effect name) (place : Nat) (element : Value)
    (scope : Scope) : effect.rel scope (bindElement tag place element scope) := by
  unfold bindElement
  simp only
  split
  · next item index hitem hindex =>
    rw [hitem, hindex] at h
    exact effect.trans (h item (by simp) scope _) (h index (by simp) _ _)
  · next item hitem hindex =>
    rw [hitem] at h
    exact h item (by simp) scope _
  · next index hitem hindex =>
    rw [hindex] at h
    exact h index (by simp) scope _
  · exact effect.refl scope

theorem afterPass_has (out : String) (rendered : Rendered)
    {onward : String → Program (String × Flow)} (h : ∀ out, (onward out).Has effect embeds) :
    (afterPass out rendered onward).Has effect embeds := by
  unfold afterPass
  split
  · trivial
  · exact h _
  · trivial
  · trivial

theorem passOver_has {tag : Tag} (h : ∀ name ∈ (tag.attr? "item").toList ++
    (tag.attr? "index").toList, Allows effect name) (place : Nat) (items : List Value)
    (out : String) : (passOver tag place items out).Has effect embeds := by
  induction items generalizing place out with
  | nil => trivial
  | cons element rest ih =>
    exact ⟨rel_bindElement h place element, fun rendered => afterPass_has out rendered (ih _)⟩

theorem passWhile_has (tag : Tag) (condition : String) (limit left : Nat) (out : String) :
    (passWhile tag condition limit left out).Has effect embeds := by
  induction left generalizing out with
  | zero =>
    rw [passWhile]
    intro view
    simp only
    split <;> trivial
  | succ left ih =>
    rw [passWhile]
    intro view
    simp only
    split
    · trivial
    · trivial
    · exact fun rendered => afterPass_has out rendered ih

theorem loopBody_has {e : Element} (h : ∀ name ∈ (e.tag.attr? "item").toList ++
    (e.tag.attr? "index").toList, Allows effect name) : (loopBody e).Has effect embeds := by
  intro view
  simp only [bind_eq_andThen, andThen]
  split
  · exact passWhile_has _ _ _ _ _
  · exact .andThen .scope fun scope => .andThen (.ofExcept _) fun elements =>
      passOver_has h _ _ _

/-! ## The other hooks -/

theorem switchBody_has (e : Element) : (switchBody e).Has effect embeds := by
  unfold switchBody
  simp only [bind_eq_andThen]
  refine .andThen .scope fun scope => .andThen (.ofExcept _) fun expression =>
    .andThen (.ofExcept _) fun chosen => ?_
  split
  · exact .rendered _
  · trivial

theorem describeVariable_has (e : Element) (text : String) :
    (describeVariable e text).Has effect embeds := by
  unfold describeVariable
  refine .andThen .scope fun scope => ?_
  split <;> trivial

theorem embedTemplate_has (h : embeds) (e : Element) : (embedTemplate e).Has effect embeds :=
  .andThen .scope fun _ => .andThen (.ofExcept _) fun path => .embedded h path

theorem abortRender_has (e : Element) : (abortRender e).Has effect embeds := by
  unfold abortRender
  refine .andThen .scope fun scope => ?_
  split <;> trivial

/-! ## The registry -/

/-- The names of the built-in tags are folded. -/
theorem folded_handlers : ∀ entry ∈ handlers, Text.foldAscii entry.1 = entry.1 := by
  decide +kernel

/-- A name that the tag is expanded to is among those that it can bind. -/
theorem mem_boundNames {tag : Tag} {attr : String} (h : nameGivers tag = (tag.attr? attr).toList)
    {scope : Scope} {name : String} (hname : tag.text? scope attr = some name) :
    name ∈ boundNames tag scope := by
  obtain ⟨given, hgiven, rfl⟩ := Option.map_eq_some_iff.mp hname
  rw [boundNames, h, hgiven]
  exact List.mem_append_left _ (List.mem_cons_self ..)

/-- A built-in tag has an effect that binding each of its names has. Only `cfinclude` has other
templates rendered. -/
theorem handlers_have {tag : Tag}
    (hnames : ∀ scope, ∀ name ∈ boundNames tag scope, Allows effect name)
    (hembeds : tag.name = "cfinclude" → embeds) (body : Option (List Node)) :
    ∀ entry ∈ handlers, entry.1 = tag.name → entry.2.Has effect embeds ⟨tag, body⟩ := by
  have hguard : (Program.done true).Has effect embeds := trivial
  have henter : (Program.done ()).Has effect embeds := trivial
  have hbody : (Program.rendered .body).Has effect embeds := .rendered .body
  have hexit : ∀ text : String, (Program.done text).Has effect embeds := fun _ => trivial
  have houtside : (outsideSwitch ⟨tag, body⟩).Has effect embeds := trivial
  -- four of the tags bind something, and each of them only names that are its own
  have hgiven : ∀ {attr}, nameGivers tag = (tag.attr? attr).toList →
      ∀ scope name, tag.text? scope attr = some name → Allows effect name :=
    fun h scope name hname => hnames scope name (mem_boundNames h hname)
  have hfixed : ∀ name ∈ fixedNames tag, Allows effect name :=
    fun name hname => hnames .empty name (List.mem_append_right _ hname)
  have hparam (hname : "cfparam" = tag.name) : (declare ⟨tag, body⟩).Has effect embeds := by
    apply declare_has
    apply hgiven
    simp [nameGivers, ← hname]
  have hset (hname : "cfset" = tag.name) : (assignAll ⟨tag, body⟩).Has effect embeds := by
    apply assignAll_has
    · intro hform
      apply hgiven
      simp [nameGivers, ← hname, hform]
    · intro hform pair hpair
      apply hfixed
      simp only [fixedNames, ← hname, hform]
      exact List.mem_map_of_mem hpair
  have hsave (hname : "cfsavecontent" = tag.name) : (capture ⟨tag, body⟩).Has effect embeds := by
    apply capture_has
    apply hgiven
    simp [nameGivers, ← hname]
  have hloop (hname : "cfloop" = tag.name) : (loopBody ⟨tag, body⟩).Has effect embeds := by
    apply loopBody_has
    intro name hmem
    apply hfixed
    simpa [fixedNames, ← hname] using hmem
  simp only [handlers, List.forall_mem_cons, List.not_mem_nil, false_implies, implies_true,
    and_true]
  exact ⟨fun _ => ⟨hguard, henter, hbody, hexit⟩,
    fun _ => ⟨hguard, henter, hbody, describeVariable_has _⟩,
    fun _ => ⟨conditionGuard_has _, henter, hbody, hexit⟩,
    fun _ => ⟨conditionGuard_has _, henter, hbody, hexit⟩,
    fun _ => ⟨hguard, henter, hbody, hexit⟩,
    fun h => ⟨hguard, henter, hloop h, hexit⟩,
    fun _ => ⟨hguard, henter, switchBody_has _, hexit⟩,
    fun _ => ⟨hguard, houtside, hbody, hexit⟩,
    fun _ => ⟨hguard, houtside, hbody, hexit⟩,
    fun h => ⟨hguard, hparam h, hbody, hexit⟩,
    fun h => ⟨hguard, hset h, hbody, hexit⟩,
    fun h => ⟨hguard, henter, hsave h, hexit⟩,
    fun h => ⟨hguard, henter, embedTemplate_has (hembeds h.symm) _, hexit⟩,
    fun _ => ⟨hguard, henter, trivial, hexit⟩,
    fun _ => ⟨hguard, henter, abortRender_has _, hexit⟩⟩

/-- So has the registry at the tag. -/
theorem registry_hasAt {tag : Tag}
    (hnames : ∀ scope, ∀ name ∈ boundNames tag scope, Allows effect name)
    (hembeds : tag.name = "cfinclude" → embeds) : registry.HasAt effect embeds tag := by
  intro h hget body
  have hempty : ∀ name h, Registry.empty.get? name = some h →
      name = tag.name → h.Has effect embeds ⟨tag, body⟩ := fun _ _ hget => nomatch hget
  have hhandlers : ∀ entry ∈ handlers, Text.foldAscii entry.1 = tag.name →
      entry.2.Has effect embeds ⟨tag, body⟩ := by
    intro entry hentry hname
    rw [folded_handlers entry hentry] at hname
    exact handlers_have hnames hembeds body entry hentry hname
  exact Registry.of_get?_registerEach hempty hhandlers _ _ hget rfl

end TagTemplate.Builtin
