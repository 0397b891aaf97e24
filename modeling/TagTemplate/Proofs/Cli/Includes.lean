import TagTemplate.Cli.Run
import TagTemplate.Proofs.Files.Paths

/-!
# Includes stay below their root

The path of an include can come from a variable, so it may be any text. The loader of a render
refuses it without a look at any file if it begins at the root of all files or steps up anywhere,
and otherwise opens one file, below the directory that includes are seen from (`loader_confined`).
So no file elsewhere is asked for (`below_of_render_needs`), and none makes a difference
(`loader_congr_below`).
-/

namespace TagTemplate.Cli

/-- What the loader finds for a path is what is found at one file, whatever the other files hold. -/
structure OpensOnly (root path full : String) : Prop where
  content : ∀ files content,
    loader files root path = .ok content ↔ files full = some (.text content)
  nothingElse : ∀ files files', files' full = files full →
    loader files' root path = loader files root path

theorem loader_of_escapes {path : String} (h : Path.escapes path = true) (files : KnownFiles)
    (root : String) :
    loader files root path = .error ⟨s!"path escapes the include root: {path}"⟩ := if_pos h

theorem loader_of_not_escapes {path : String} (h : Path.escapes path = false) (files : KnownFiles)
    (root : String) :
    loader files root path =
      match files (Path.join root path) with
      | some (.text content) => .ok content
      | some status => .error ⟨s!"{Path.join root path}: {status.reason}"⟩
      | none => .error ⟨s!"{Path.join root path}: not read yet"⟩ := by
  rw [loader, h]
  rfl

/-- A path that does not escape opens the file that it names when seen from the root. -/
theorem opensOnly_join {path : String} (h : Path.escapes path = false) (root : String) :
    OpensOnly root path (Path.join root path) where
  content files content := by
    rw [loader_of_not_escapes h]
    cases files (Path.join root path) with
    | none => exact ⟨nofun, nofun⟩
    | some status =>
      cases status with
      | text found =>
        constructor
        · rintro ⟨⟩
          rfl
        · rintro ⟨⟩
          rfl
      | _ => exact ⟨nofun, nofun⟩
  nothingElse files files' hsame := by
    rw [loader_of_not_escapes h, loader_of_not_escapes h, hsame]

/-- The loader refuses a path, whatever the files hold, just if it is absolute or steps up. For any
other it opens one file: that of the root followed by the components of the path, below the root. -/
theorem loader_confined (root path : String) :
    ((∃ refusal, ∀ files, loader files root path = .error refusal) ↔
      Path.isAbsolute path = true ∨ Path.StepsUp path) ∧
    (¬(Path.isAbsolute path = true ∨ Path.StepsUp path) →
      ∃ full, OpensOnly root path full ∧
        Path.components full = Path.components root ++ Path.components path ∧
        Path.Below root full) := by
  rw [← Path.escapes_iff, Bool.not_eq_true]
  refine ⟨⟨?_, fun h => ⟨_, fun files => loader_of_escapes h files root⟩⟩, fun h =>
    ⟨_, opensOnly_join h root, Path.components_join root path, Path.below_join h⟩⟩
  rintro ⟨refusal, hrefused⟩
  by_contra hstays
  -- where the file is there, it is found
  have hfound : loader (fun _ => some (.text "")) root path = .ok "" :=
    ((opensOnly_join (Bool.not_eq_true _ ▸ hstays) root).content _ _).mpr rfl
  rw [hrefused] at hfound
  cases hfound

/-- Slashes side by side and single dots are passed over, and two dots in a name are no step up. -/
theorem loader_confined_of_dots :
    ∃ full, OpensOnly "site/pages/" ".//a/./..b/c" full ∧
      Path.components full = ["site", "pages", "a", "..b", "c"] ∧
      Path.Below "site/pages/" full := by
  have hstays : ¬(Path.isAbsolute ".//a/./..b/c" = true ∨ Path.StepsUp ".//a/./..b/c") := by
    rw [← Path.escapes_iff]
    decide +kernel
  obtain ⟨full, hopens, hcomponents, hbelow⟩ :=
    (loader_confined "site/pages/" ".//a/./..b/c").2 hstays
  refine ⟨full, hopens, hcomponents.trans ?_, hbelow⟩
  decide +kernel

/-- What files hold that do not lie below the root makes no difference. -/
theorem loader_congr_below {files files' : KnownFiles} {root : String}
    (h : ∀ full, Path.Below root full → files' full = files full) :
    loader files' root = loader files root := by
  funext path
  cases hescapes : Path.escapes path with
  | true => rw [loader_of_escapes hescapes, loader_of_escapes hescapes]
  | false => exact (opensOnly_join hescapes root).nothingElse _ _ (h _ (Path.below_join hescapes))

/-! ## Rendering a file -/

/-- A file that a render could not go on without lies below the root. -/
theorem below_of_neededFile? {files : KnownFiles} {root full : String} {error : RenderError}
    (h : neededFile? files root error = some full) : Path.Below root full := by
  unfold neededFile? at h
  split at h
  · next path reason =>
    simp only [Option.ite_none_right_eq_some, Bool.and_eq_true, Bool.not_eq_true',
      Option.some.injEq] at h
    obtain ⟨⟨hstays, -⟩, rfl⟩ := h
    exact Path.below_join hstays
  · cases h

/-- Behind the source and the variables, a render asks for no file but those below its root. -/
theorem below_of_render_needs {files : KnownFiles} {path full : String} {settings : Settings}
    (h : render files path settings = .ok (.needs full)) :
    Path.Below (settings.root.getD (Path.parent path)) full := by
  simp only [render, bind, Except.bind] at h
  repeat' split at h
  all_goals try cases h
  · next hneeded => exact below_of_neededFile? hneeded

end TagTemplate.Cli
