import TagTemplate.Cli.Run

/-!
# The program

Reads the files that a run needs, one after the other, and prints what the run leaves behind.
-/

namespace TagTemplate

/-- What an error tells about a file. -/
def statusOfError : IO.Error → FileStatus
  | .noFileOrDirectory _ _ _ => .missing
  | .inappropriateType _ 20 _ => .belowFile
  | .invalidArgument _ 36 _ => .nameTooLong
  | .inappropriateType _ _ _ => .directory
  | e => .unreadable e.toString

/-- What is found at a path. -/
def readStatus (path : String) : IO FileStatus := do
  try
    return .text (← IO.FS.readFile path)
  catch e =>
    return statusOfError e

/-- Runs the program with the files read so far, and again with one more as long as one is
missing. -/
partial def runWith (known : List (String × FileStatus)) (args : List String) : IO Cli.Outcome := do
  match Cli.run (fun path => known.lookup path) args with
  | .finished outcome => return outcome
  | .needs path => runWith ((path, ← readStatus path) :: known) args

end TagTemplate

def main (args : List String) : IO UInt32 := do
  let outcome ← TagTemplate.runWith [] args
  IO.print outcome.stdout
  IO.eprint outcome.stderr
  return outcome.code.toUInt32
