import TagTemplate.Text.Split

/-!
# Paths

A path is a text of components between slashes. Empty components and single dots say nothing. A
path escapes the directory that it is meant to stay in when it begins at the root of all files or
steps up to a parent anywhere.
-/

namespace TagTemplate.Path

/-- The components that a path steps through, without the empty ones and the single dots. -/
def components (path : String) : List String :=
  (Text.splitAny "/" path).filter fun part => part ≠ "" ∧ part ≠ "."

/-- The path begins at the root of all files. -/
def isAbsolute (path : String) : Bool := path.toList.head? == some '/'

/-- The path does not stay below the directory that it is seen from. -/
def escapes (path : String) : Bool := isAbsolute path || (components path).contains ".."

/-- A relative path seen from a directory. -/
def join (directory path : String) : String :=
  match directory.toList.getLast? with
  | none => path
  | some '/' => directory ++ path
  | some _ => directory ++ "/" ++ path

/-- A path, last character first, without the slashes and single dots at its end. The first
component stays, also when it is a dot, and so does a slash that is all of the path. -/
def trimEnd : List Char → List Char
  | ['/'] => ['/']
  | '/' :: rest => trimEnd rest
  | '.' :: '/' :: rest => trimEnd ('/' :: rest)
  | cs => cs
termination_by cs => cs.length

/-- The directory that holds a file. -/
def parent (path : String) : String :=
  let whole := trimEnd path.toList.reverse
  String.ofList (trimEnd (whole.dropWhile (· != '/'))).reverse

end TagTemplate.Path
