import TagTemplate.Cli.Arguments
import TagTemplate.Engine
import TagTemplate.Files.Status
import TagTemplate.Json.Refusal

/-!
# Running a command

What the program prints, and its exit code, as a function of its arguments and of the files it
reads. Not every file need be known beforehand: a run that meets one that is not known says which,
and is done again when it is known.
-/

namespace TagTemplate.Cli

/-- What the program leaves behind. -/
structure Outcome where
  code : Nat
  stdout : String
  stderr : String
deriving Repr, DecidableEq

/-- A run that has come to its end, or to a file that is not known. -/
inductive Progress where
  | finished (outcome : Outcome)
  | needs (path : String)
deriving Repr, DecidableEq

/-- What is known of the files so far. -/
abbrev KnownFiles := String → Option FileStatus

/-- The name and version of the program. -/
def versionText : String := "xoly 0.1.0"

/-- How the program is called. -/
def usageText : String := "Usage: xoly [--verbose] <render|check|tokens> <PATH> [OPTIONS]"

/-- The end of a run that fails, with what was printed before. -/
def failure (stdout message : String) : Progress := .finished ⟨1, stdout, message ++ "\n"⟩

/-- The text of a file that the arguments name, or the end of the run. -/
def readSource (files : KnownFiles) (path : String) : Except Progress String :=
  match files path with
  | none => .error (.needs path)
  | some (.text content) => .ok content
  | some status =>
    if status.isPresent then .error (failure "" s!"Error: reading {path}: {status.reason}")
    else .error (failure "" s!"Error: file not found: {path}")

/-! ## Rendering a file -/

/-- Finds templates below a directory, and refuses paths that lead out of it. -/
def loader (files : KnownFiles) (root : String) : Loader := fun path =>
  if Path.escapes path then .error ⟨s!"path escapes the include root: {path}"⟩
  else
    let full := Path.join root path
    match files full with
    | some (.text content) => .ok content
    | some status => .error ⟨s!"{full}: {status.reason}"⟩
    | none => .error ⟨s!"{full}: not read yet"⟩

/-- The variables that the arguments bind, in order. -/
def bindAll (scope : Scope) : List String → Except Progress Scope
  | [] => .ok scope
  | binding :: rest =>
    match attached? binding with
    | some (name, value) => bindAll (scope.insert (Text.trim name) (.text value)) rest
    | none => .error (failure "" s!"Error: --var expects NAME=VALUE, got '{binding}'")

/-- The variables of a file. -/
def readScope (files : KnownFiles) : Option String → Except Progress Scope
  | none => .ok .empty
  | some path =>
    match readSource files path with
    | .error p => .error p
    | .ok text =>
      match Scope.ofJson text with
      | .ok scope => .ok scope
      | .error refusal => .error (failure "" s!"Error: {path}: {refusal.message}")

/-- The file that a render could not go on without, if it was not known. -/
def neededFile? (files : KnownFiles) (root : String) : RenderError → Option String
  | .includeResolution path _ =>
    let full := Path.join root path
    if !Path.escapes path && (files full).isNone then some full else none
  | _ => none

/-- Renders a file. -/
def render (files : KnownFiles) (path : String) (settings : Settings) : Except Progress Progress := do
  let source ← readSource files path
  let scope ← readScope files settings.scopeFile
  let scope ← bindAll scope settings.bindings
  let defaults : Limits := {}
  let root := settings.root.getD (Path.parent path)
  let engine : Engine :=
    { loader := loader files root
      limits :=
        { loopLimit := settings.loopLimit.getD defaults.loopLimit
          maxIncludeDepth := settings.includeDepth.getD defaults.maxIncludeDepth
          maxDepth := settings.maxDepth.getD defaults.maxDepth } }
  match engine.parse source with
  | .error e => .ok (failure "" s!"Parse error: {e.message}")
  | .ok template =>
    let report := engine.render template scope
    match report.outcome with
    | .ok output =>
      let printed := if settings.printScope then report.scope.toJson ++ "\n" else ""
      .ok (.finished ⟨0, output, printed⟩)
    | .error e =>
      match neededFile? files root e with
      | some full => .ok (.needs full)
      | none => .ok (failure "" s!"Render error: {e.message}")

/-! ## Checking a file -/

/-- Parses a file with the built-in tags. -/
def check (files : KnownFiles) (path : String) : Except Progress Progress := do
  let source ← readSource files path
  let engine : Engine := {}
  match engine.parse source with
  | .error e => .ok (failure "" s!"Parse error: {e.message}")
  | .ok _ => .ok (.finished ⟨0, "", s!"OK: {path}\n"⟩)

/-! ## Listing tokens -/

/-- A kind of token as a listing shows it. -/
def showKind : Token.Kind → String
  | .text s => "Text(" ++ Text.quoted s ++ ")"
  | .tagOpen name attributes selfClosing =>
    "TagOpen \x7b name: " ++ Text.quoted name ++ ", attributes: " ++ Text.quoted attributes ++
      ", self_closing: " ++ Value.wordOfBool selfClosing ++ " \x7d"
  | .tagClose name => "TagClose(" ++ Text.quoted name ++ ")"
  | .interpolation expression => "Interpolation(" ++ Text.quoted expression ++ ")"

/-- The lines of a listing, up to a fault. -/
def listing (printed : String) : List (Except ScanError Token) → Progress
  | [] => .finished ⟨0, printed, ""⟩
  | .error e :: _ => failure printed s!"Error: {e.message}"
  | .ok token :: rest =>
    let place := s!"{token.span.line}:{token.span.column} "
    listing (printed ++ place ++ showKind token.kind ++ "\n") rest

/-- Lists the tokens of a file. -/
def tokens (files : KnownFiles) (path : String) : Except Progress Progress := do
  let source ← readSource files path
  .ok (listing "" (Scanner.ofSource source).items)

/-! ## The program -/

/-- Does what is asked for. -/
def perform (files : KnownFiles) : Invocation → Progress
  | .version => .finished ⟨0, versionText ++ "\n", ""⟩
  | .help => .finished ⟨0, usageText ++ "\n", ""⟩
  | .run command path settings =>
    let result := match command with
      | .render => render files path settings
      | .check => check files path
      | .tokens => tokens files path
    match result with
    | .ok progress => progress
    | .error progress => progress

/-- Runs the program. Arguments that are refused give the exit code 2. -/
def run (files : KnownFiles) (args : List String) : Progress :=
  match read? false args with
  | some invocation => perform files invocation
  | none => .finished ⟨2, "", usageText ++ "\n"⟩

end TagTemplate.Cli
