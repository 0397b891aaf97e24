import TagTemplate.Render.Error

/-!
# The command line

One command with a file, and options for the command that renders. An option takes its value after
an equals sign or from the next argument, which then must not look like an option itself; a value
that may not be empty is not. Each option comes at most once, save `--var`. After `--` nothing is
an option.

Arguments are taken in from left to right, and asking for help or for the version ends this at
once; so whichever comes first, that or a fault, decides.
-/

namespace TagTemplate.Cli

/-- The commands that work on a file. -/
inductive Command where
  | render
  | check
  | tokens
deriving Repr, DecidableEq

/-- What the arguments of a command say. -/
structure Settings where
  path : Option String := none
  verbose : Bool := false
  root : Option String := none
  bindings : List String := []
  scopeFile : Option String := none
  loopLimit : Option Nat := none
  includeDepth : Option Nat := none
  maxDepth : Option Nat := none
  printScope : Bool := false
deriving Repr, DecidableEq

/-- What is asked for. -/
inductive Invocation where
  | version
  | help
  | run (command : Command) (path : String) (settings : Settings)
deriving Repr, DecidableEq

/-- An option with a value. -/
inductive Valued where
  | root
  | binding
  | scopeFile
  | loopLimit
  | includeDepth
  | maxDepth
deriving Repr, DecidableEq

/-- The option with a value of a name. -/
def Valued.ofName? : String → Option Valued
  | "--root" => some .root
  | "--var" => some .binding
  | "--vars" => some .scopeFile
  | "--loop-limit" => some .loopLimit
  | "--include-depth" => some .includeDepth
  | "--max-depth" => some .maxDepth
  | _ => none

/-- A natural number of 64 bits, with or without a plus. -/
def natural? (text : String) : Option Nat :=
  let digits := match text.toList with
    | '+' :: digits => digits
    | digits => digits
  if digits.isEmpty || !digits.all Char.isDigit then none
  else
    let n := Decimal.valueOf digits
    if n < UInt64.size then some n else none

/-- Fills in what may be said once. -/
def once {α : Type} (old new : Option α) : Option (Option α) :=
  match old, new with
  | none, some new => some (some new)
  | _, _ => none

/-- A text that is not empty. -/
def nonempty? (text : String) : Option String := if text.isEmpty then none else some text

namespace Settings

/-- Takes in an option with its value. -/
def fill? (s : Settings) (value : String) : Valued → Option Settings
  | .root => (once s.root (nonempty? value)).map fun v => { s with root := v }
  | .binding => some { s with bindings := s.bindings ++ [value] }
  | .scopeFile => (once s.scopeFile (nonempty? value)).map fun v => { s with scopeFile := v }
  | .loopLimit => (once s.loopLimit (natural? value)).map fun v => { s with loopLimit := v }
  | .includeDepth =>
    (once s.includeDepth (natural? value)).map fun v => { s with includeDepth := v }
  | .maxDepth => (once s.maxDepth (natural? value)).map fun v => { s with maxDepth := v }

/-- Takes in a file. -/
def takePath? (s : Settings) (path : String) : Option Settings :=
  (once s.path (nonempty? path)).map fun v => { s with path := v }

/-- Takes in a word to say more. -/
def takeVerbose? (s : Settings) : Option Settings :=
  if s.verbose then none else some { s with verbose := true }

/-- Takes in a request to print the variables. -/
def takePrintScope? (s : Settings) : Option Settings :=
  if s.printScope then none else some { s with printScope := true }

/-- What the settings ask of a command, if there is a file. -/
def finish? (s : Settings) (command : Command) : Option Invocation :=
  s.path.map fun path => .run command path s

end Settings

/-- An argument that is not taken as a value: it begins with a dash and is more than that. -/
def looksLikeOption (arg : String) : Bool :=
  match arg.toList with
  | '-' :: _ :: _ => true
  | _ => false

/-- A long option with a value after an equals sign: its name and the value. -/
def attached? (arg : String) : Option (String × String) :=
  match arg.toList.dropWhile (· != '=') with
  | [] => none
  | _ :: value => some (String.ofList (arg.toList.takeWhile (· != '=')), String.ofList value)

/-- What comes of an argument: it is taken in, it needs the next one as its value, it ends the
reading, or it is refused. -/
inductive Taken where
  | settings (s : Settings)
  | needsValue (option : Valued)
  | ends (invocation : Invocation)
  | refused

/-- Settings, if there are any. -/
def Taken.ofSettings : Option Settings → Taken
  | some s => .settings s
  | none => .refused

/-- Takes in the letters of short options. -/
def takeLetters (s : Settings) : List Char → Taken
  | [] => .settings s
  | 'v' :: rest =>
    match s.takeVerbose? with
    | some s => takeLetters s rest
    | none => .refused
  | 'h' :: _ => .ends .help
  | _ => .refused

/-- Takes in an argument of a command. -/
def takeArgument (command : Command) (s : Settings) (arg : String) : Taken :=
  let valued (name : String) : Option Valued :=
    if command = .render then Valued.ofName? name else none
  if arg = "--verbose" then .ofSettings s.takeVerbose?
  else if arg = "--help" then .ends .help
  else if arg = "--print-scope" ∧ command = .render then .ofSettings s.takePrintScope?
  else match arg.toList with
    | '-' :: '-' :: _ =>
      match valued arg with
      | some option => .needsValue option
      | none =>
        match attached? arg with
        | none => .refused
        | some (name, value) =>
          match valued name with
          | some option => .ofSettings (s.fill? value option)
          | none => .refused
    | '-' :: c :: rest => takeLetters s (c :: rest)
    | _ => .ofSettings (s.takePath? arg)

/-- Reads the arguments of a command; `onlyPaths` after `--`. -/
def readArguments (command : Command) (onlyPaths : Bool) (s : Settings) :
    List String → Option Invocation
  | [] => s.finish? command
  | arg :: rest =>
    if onlyPaths then
      match s.takePath? arg with
      | some s => readArguments command true s rest
      | none => none
    else if arg = "--" then readArguments command true s rest
    else match takeArgument command s arg with
      | .settings s => readArguments command false s rest
      | .ends invocation => some invocation
      | .refused => none
      | .needsValue option =>
        match rest with
        | [] => none
        | value :: rest =>
          if looksLikeOption value then none
          else match s.fill? value option with
            | some s => readArguments command false s rest
            | none => none

/-- Takes in the letters of short options before a command. -/
def takeFirstLetters (verbose : Bool) : List Char → Option (Bool ⊕ Invocation)
  | [] => some (.inl verbose)
  | 'v' :: rest => if verbose then none else takeFirstLetters true rest
  | 'V' :: _ => some (.inr .version)
  | 'h' :: _ => some (.inr .help)
  | _ => none

/-- Reads what help is asked about: nothing, or one command, of which the request for help is
itself one. -/
def readTopics : List String → Option Invocation
  | [] => some .help
  | [topic] => if ["render", "check", "tokens", "help"].contains topic then some .help else none
  | _ => none

/-- Reads a command line. Nothing is said about one that is refused. -/
def read? (verbose : Bool) : List String → Option Invocation
  | [] => none
  | arg :: rest =>
    if arg = "render" then readArguments .render false {} rest
    else if arg = "check" then readArguments .check false {} rest
    else if arg = "tokens" then readArguments .tokens false {} rest
    else if arg = "help" then readTopics rest
    else if arg = "--version" then some .version
    else if arg = "--help" then some .help
    else if arg = "--verbose" then if verbose then none else read? true rest
    else match arg.toList with
      | '-' :: c :: letters =>
        match takeFirstLetters verbose (c :: letters) with
        | some (.inl verbose) => read? verbose rest
        | some (.inr invocation) => some invocation
        | none => none
      | _ => none

end TagTemplate.Cli
