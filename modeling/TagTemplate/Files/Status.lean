import TagTemplate.Files.Path
import TagTemplate.Names.OrderedMap

/-!
# Files

What is found at a path: a text, or the reason why there is none. Files can also be held in
memory, by path; the directories are then those that some path goes through.
-/

namespace TagTemplate

/-- What is found at a path. -/
inductive FileStatus where
  | text (content : String)
  | missing
  | directory
  /-- The path goes on below a file. -/
  | belowFile
  /-- The path, or a component of it, is longer than any that could be stored. -/
  | nameTooLong
  | unreadable (reason : String)
deriving Repr, DecidableEq

namespace FileStatus

/-- Something is there. -/
def isPresent : FileStatus → Bool
  | .missing => false
  | .belowFile => false
  | .nameTooLong => false
  | _ => true

/-- Why no text is found. -/
def reason : FileStatus → String
  | .text _ => ""
  | .missing => "No such file or directory (os error 2)"
  | .directory => "Is a directory (os error 21)"
  | .belowFile => "Not a directory (os error 20)"
  | .nameTooLong => "File name too long (os error 36)"
  | .unreadable reason => reason

end FileStatus

/-- Files by the components of their paths. -/
structure MemoryFiles where
  files : List (List String × String)

namespace MemoryFiles

/-- The files of a list of paths with contents; the last content of a path counts. -/
def ofList (files : List (String × String)) : MemoryFiles :=
  ⟨(files.map fun (path, content) => (Path.components path, content)).reverse⟩

/-- A directory: how many levels above the files it lies, and its components from there. -/
structure Place where
  above : Nat
  components : List String

/-- Something is stored below the components. -/
def isDirectory (m : MemoryFiles) (components : List String) : Bool :=
  components.isEmpty || m.files.any fun file =>
    components.isPrefixOf file.1 && components.length < file.1.length

/-- The most bytes of a component. -/
def maxComponentSize : Nat := 255

/-- The most bytes of a path. -/
def maxPathSize : Nat := 4095

/-- What is found after a row of steps from a directory. The names of what lies beside the files
are not known, so only steps up lead there. An empty step or a dot at the end demands a
directory. -/
def follow (m : MemoryFiles) (place : Place) : List String → FileStatus
  | [] => .directory
  | step :: rest =>
    if step = "" ∨ step = "." then m.follow place rest
    else if step = ".." then
      match place.components with
      | [] => m.follow ⟨place.above + 1, []⟩ rest
      | components => m.follow ⟨place.above, components.dropLast⟩ rest
    else
      let components := place.components ++ [step]
      if maxComponentSize < step.utf8ByteSize then .nameTooLong
      else if 0 < place.above then .missing
      else if m.isDirectory components then m.follow ⟨0, components⟩ rest
      else match m.files.lookup components with
        | some content => if rest.isEmpty then .text content else .belowFile
        | none => .missing

/-- What is found at a path. -/
def status (m : MemoryFiles) (path : String) : FileStatus :=
  if path.isEmpty then .missing
  else if path.toList.contains (Char.ofNat 0) then
    .unreadable "file name contained an unexpected NUL byte"
  else if maxPathSize < path.utf8ByteSize then .nameTooLong
  else if Path.isAbsolute path then
    if (Path.components path).isEmpty then .directory else .missing
  else m.follow ⟨0, []⟩ (Text.splitAny "/" path)

end MemoryFiles

end TagTemplate
