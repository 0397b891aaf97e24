import TagTemplate.Proofs.Builtin.Effects
import TagTemplate.Proofs.Engine.Pasting

/-!
# What the built-in tags leave alone

A render with the built-in tags takes no variable away. The variables keep their order, new ones
come after them, and each name is there once, in small letters. And if a template has no includes
and no references in the names that it binds, the names that it binds are written in it; any other
variable has the value after the render that it had before (`render_confined`).
-/

namespace TagTemplate

namespace Effect

/-- Names come at the end only, and stay folded and apart. -/
def grows : Effect where
  rel before after := before.names <+: after.names ∧ (before.Tidy → after.Tidy)
  refl _ := ⟨List.prefix_rfl, id⟩
  trans h₁ h₂ := ⟨h₁.1.trans h₂.1, h₂.2 ∘ h₁.2⟩

/-- A variable keeps its value. -/
def keeps (name : String) : Effect where
  rel before after := after.get? name = before.get? name
  refl _ := rfl
  trans h₁ h₂ := h₂.trans h₁

end Effect

namespace Builtin

theorem allows_grows (name : String) : Allows .grows name :=
  fun scope value => ⟨scope.names_prefix_insert name value, fun h => h.insert name value⟩

theorem allows_keeps {name other : String} (h : Text.foldAscii name ≠ Text.foldAscii other) :
    Allows (.keeps name) other := fun scope => scope.get?_insert_of_ne h

/-- The names that a tag binds as they are written in it. -/
def writtenNames (tag : Tag) : List String := nameGivers tag ++ fixedNames tag

/-- The tag is no include, and no reference stands in the names that it binds. -/
structure BindsAsWritten (tag : Tag) : Prop where
  noInclude : tag.name ≠ "cfinclude"
  noMark : ∀ name ∈ nameGivers tag, '#' ∉ name.toList

/-- Such a tag binds what is written in it. -/
theorem BindsAsWritten.boundNames_eq {tag : Tag} (h : BindsAsWritten tag) (scope : Scope) :
    boundNames tag scope = writtenNames tag := by
  have hexpand : (nameGivers tag).map scope.expandText = (nameGivers tag).map id :=
    List.map_congr_left fun name hname => scope.expandText_of_noMark (h.noMark name hname)
  rw [boundNames, hexpand, List.map_id, writtenNames]

/-- Such a tag leaves alone any variable whose name is not written in it. -/
theorem BindsAsWritten.hasAt_keeps {tag : Tag} (h : BindsAsWritten tag) {name : String}
    (hname : Text.foldAscii name ∉ (writtenNames tag).map Text.foldAscii) :
    registry.HasAt (.keeps name) False tag := by
  refine registry_hasAt ?_ fun hinclude => h.noInclude hinclude
  intro scope written hwritten
  rw [h.boundNames_eq] at hwritten
  apply allows_keeps
  intro heq
  exact hname (heq ▸ List.mem_map_of_mem hwritten)

end Builtin

namespace Engine

open Builtin

/-- What a render with the built-in tags does to the variables, whether it succeeds, is aborted or
fails. -/
theorem render_confined (loader : Loader) (limits : Limits) (template : Template) (scope : Scope) :
    scope.names <+: (render ⟨Builtin.registry, loader, limits⟩ template scope).scope.names ∧
    (scope.Tidy → (render ⟨Builtin.registry, loader, limits⟩ template scope).scope.Tidy) ∧
    (AllTagsOf (fun _ tag => BindsAsWritten tag) template.nodes →
      ∀ name, AllTagsOf
          (fun _ tag => Text.foldAscii name ∉ (writtenNames tag).map Text.foldAscii)
          template.nodes →
        (render ⟨Builtin.registry, loader, limits⟩ template scope).scope.get? name =
          scope.get? name) := by
  -- the names may grow by any tag and any include
  have hgrows : ∀ tag, Builtin.registry.HasAt .grows True tag :=
    fun tag => registry_hasAt (fun _ name _ => allows_grows name) fun _ => trivial
  have hall := run_has ⟨Builtin.registry, loader, limits⟩ hgrows template (.start scope)
  refine ⟨hall.1, hall.2, ?_⟩
  intro hwritten name hname
  -- one variable is kept by the tags of this template, and nothing else is rendered
  have htags : AllTagsOf (fun _ tag => Builtin.registry.HasAt (.keeps name) False tag)
      template.nodes :=
    (hwritten.and hname).mono fun _ tag h => h.1.hasAt_keeps h.2
  exact run_has_of_tags ⟨Builtin.registry, loader, limits⟩ template htags (.start scope)

/-- The tag `<cfset name="x" value="1">`. -/
def setX : Tag :=
  ⟨"cfset", .ofList [("name", "x"), ("value", "1")], "name=\"x\" value=\"1\"", ⟨0, 28, 1, 1⟩⟩

/-- It leaves `z` alone, which is not written in it. -/
theorem render_confined_setX :
    (render ⟨Builtin.registry, Loader.none, {}⟩ ⟨[.void setX]⟩
      (.ofList [("z", .bool true)])).scope.get? "z" = some (.bool true) := by
  have hwritten : AllTagsOf (fun _ tag => BindsAsWritten tag) [.void setX] :=
    ⟨⟨by decide +kernel, by decide +kernel⟩, trivial⟩
  have hother : Text.foldAscii "z" ∉ (writtenNames setX).map Text.foldAscii := by decide +kernel
  have hkept := (render_confined Loader.none {} ⟨[.void setX]⟩
    (.ofList [("z", .bool true)])).2.2 hwritten "z" ⟨hother, trivial⟩
  exact hkept.trans rfl

end Engine

end TagTemplate
