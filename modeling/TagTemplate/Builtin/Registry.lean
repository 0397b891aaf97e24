import TagTemplate.Builtin.Binding
import TagTemplate.Builtin.Chain
import TagTemplate.Builtin.Choice
import TagTemplate.Builtin.Emission
import TagTemplate.Builtin.Repetition
import TagTemplate.Handler.Registry

/-!
# The built-in tags

Each is registered under a name that begins with `cf`, and answers to the name without it.
-/

namespace TagTemplate.Builtin

/-- The built-in tags in the order of their registration. -/
def handlers : List (String × Handler) := [
  ("cfoutput", output),
  ("cfdump", dump),
  ("cfif", ifBranch),
  ("cfelseif", elseIfBranch),
  ("cfelse", elseBranch),
  ("cfloop", loop),
  ("cfswitch", switch),
  ("cfcase", caseChild),
  ("cfdefault", defaultChild),
  ("cfparam", param),
  ("cfset", set),
  ("cfsavecontent", saveContent),
  ("cfinclude", includeTag),
  ("cfbreak", breakTag),
  ("cfabort", abortTag)]

/-- A registry of the built-in tags. -/
def registry : Registry :=
  handlers.foldl (fun r entry => r.register entry.1 entry.2) .empty

end TagTemplate.Builtin
