import TagTemplate.Files.Path
import TagTemplate.Proofs.Text.Runs

/-!
# Paths below a directory

What a path steps through is what stands between its slashes (`mem_components_iff`), so the
components of a path that is seen from a directory are those of the directory and then its own
(`components_join`). It lies below the directory, symbolic links aside, if none of its own steps
goes up (`below_join`).
-/

namespace TagTemplate

namespace Path

/-- A character that stands between two components. -/
def isSlash (c : Char) : Bool := "/".toList.contains c

/-- What stands between two slashes, or between a slash and an end of the path, or is all of it, are
two dots. -/
def StepsUp (path : String) : Prop :=
  ∃ start stop, Text.IsRun isSlash path.toList start stop ∧
    slice path.toList start stop = "..".toList

/-- The path is that of the directory, or goes on from there without a step up. -/
def Below (directory path : String) : Prop :=
  isAbsolute path = isAbsolute directory ∧
    ∃ steps, components path = components directory ++ steps ∧ ".." ∉ steps

/-! ## Components -/

theorem components_eq (path : String) :
    components path = ((Text.splitChars isSlash path.toList).map String.ofList).filter
      fun part => part ≠ "" ∧ part ≠ "." := rfl

/-- The components are the longest stretches without a slash, single dots left out. -/
theorem mem_components_iff {path step : String} :
    step ∈ components path ↔ step ≠ "." ∧ ∃ start stop,
      Text.IsRun isSlash path.toList start stop ∧ slice path.toList start stop = step.toList := by
  have hpieces : step ∈ components path ↔
      step ≠ "." ∧ step.toList ∈ (Text.splitChars isSlash path.toList).filter (!·.isEmpty) := by
    rw [components_eq, List.mem_filter, List.mem_filter, List.mem_map]
    constructor
    · rintro ⟨⟨piece, hpiece, rfl⟩, hstep⟩
      obtain ⟨hne, hdot⟩ := of_decide_eq_true hstep
      rw [String.toList_ofList]
      refine ⟨hdot, hpiece, ?_⟩
      cases piece with
      | nil => exact absurd rfl hne
      | cons c piece => rfl
    · rintro ⟨hdot, hpiece, hne⟩
      refine ⟨⟨step.toList, hpiece, String.ofList_toList⟩, decide_eq_true ⟨?_, hdot⟩⟩
      rintro rfl
      cases hne
  rw [hpieces, ← Text.map_slice_runs, List.mem_map]
  refine and_congr_right fun _ => ⟨?_, ?_⟩
  · rintro ⟨⟨start, stop⟩, hrun, hslice⟩
    exact ⟨start, stop, Text.mem_runs_iff.mp hrun, hslice⟩
  · rintro ⟨start, stop, hrun, hslice⟩
    exact ⟨(start, stop), Text.mem_runs_iff.mpr hrun, hslice⟩

/-- A step up is a component like others. -/
theorem stepsUp_iff {path : String} : StepsUp path ↔ ".." ∈ components path := by
  rw [mem_components_iff, StepsUp]
  exact ⟨fun h => ⟨by decide, h⟩, fun h => h.2⟩

theorem escapes_iff {path : String} :
    escapes path = true ↔ isAbsolute path = true ∨ StepsUp path := by
  rw [escapes, Bool.or_eq_true, List.contains_iff_mem, stepsUp_iff]

/-! ## Paths seen from a directory -/

theorem components_slash {path before after : String}
    (h : path.toList = before.toList ++ '/' :: after.toList) :
    components path = components before ++ components after := by
  have hslash : isSlash '/' = true := rfl
  rw [components_eq, components_eq, components_eq, h, Text.splitChars_append hslash,
    List.map_append, List.filter_append]

/-- From a directory, a path goes through the components of the directory and then its own. -/
theorem components_join (directory path : String) :
    components (join directory path) = components directory ++ components path := by
  unfold join
  split
  · next hlast =>
    have hempty : directory = "" := by
      rw [← String.toList_eq_nil_iff]
      exact List.getLast?_eq_none_iff.mp hlast
    rw [hempty]
    rfl
  · next hlast =>
    obtain ⟨before, hbefore⟩ := List.getLast?_eq_some_iff.mp hlast
    -- the slash at the end has nothing after it
    have hdirectory : components directory = components (String.ofList before) ++ components "" :=
      components_slash (by rw [hbefore, String.toList_ofList]; rfl)
    have hempty : components "" = [] := rfl
    rw [hdirectory, hempty, List.append_nil]
    refine components_slash ?_
    rw [String.toList_append, hbefore, String.toList_ofList, List.append_assoc]
    rfl
  · refine components_slash ?_
    rw [String.toList_append, String.toList_append, List.append_assoc]
    rfl

/-- From a directory, a relative path is absolute if the directory is. -/
theorem isAbsolute_join {directory path : String} (h : isAbsolute path = false) :
    isAbsolute (join directory path) = isAbsolute directory := by
  unfold join
  cases hdirectory : directory.toList with
  | nil =>
    rw [List.getLast?_nil, h, isAbsolute, hdirectory]
    rfl
  | cons c rest =>
    have hhead : ∀ after : String,
        isAbsolute (directory ++ after) = isAbsolute directory := by
      intro after
      rw [isAbsolute, isAbsolute, String.toList_append, hdirectory]
      rfl
    split
    · next hlast => cases hlast
    · exact hhead path
    · rw [String.append_assoc]
      exact hhead _

/-- A path that does not escape lies below the directory that it is seen from. -/
theorem below_join {directory path : String} (h : escapes path = false) :
    Below directory (join directory path) := by
  rw [escapes, Bool.or_eq_false_iff] at h
  obtain ⟨hrelative, hup⟩ := h
  refine ⟨isAbsolute_join hrelative, components path, components_join directory path, ?_⟩
  rw [← List.contains_iff_mem, hup]
  decide

end Path

end TagTemplate
