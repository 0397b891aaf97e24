import TagTemplate.Condition.Reading
import TagTemplate.Tree.ParseError

/-!
# Limits, and why a render fails

A render that fails gives no output. Each cause carries what its message needs, which for most is
the line of the tag to blame.
-/

namespace TagTemplate

/-- What a render may use up: iterations of one loop, includes within includes, and blocks within
blocks. -/
structure Limits where
  loopLimit : Nat := 100000
  maxIncludeDepth : Nat := 16
  maxDepth : Nat := 256
deriving Repr, DecidableEq, Inhabited

/-- Where a tag would be allowed. -/
inductive Placement where
  | afterBranch
  | insideSwitch
deriving Repr, DecidableEq

def Placement.description : Placement → String
  | .afterBranch => "after <cfif> or <cfelseif>"
  | .insideSwitch => "directly inside <cfswitch>"

/-- What is wrong with the value of an attribute. -/
inductive AttributeFault where
  | zeroStep
  | notFinite
  | notAList
  | unknownType
  | mixedForms
deriving Repr, DecidableEq

def AttributeFault.description : AttributeFault → String
  | .zeroStep => "step must not be zero"
  | .notFinite => "expected a finite number"
  | .notAList => "not a list value"
  | .unknownType => "expected any, string, numeric or boolean"
  | .mixedForms => "cannot be combined with name and value"

/-- Why a render fails. -/
inductive RenderError where
  | missingRequiredParam (name : String) (line : Nat)
  | invalidParamType (name expected : String) (line : Nat)
  | loopLimitExceeded (limit line : Nat)
  | includeResolution (path reason : String)
  | includeParse (path : String) (error : ParseError)
  | includeDepthExceeded (path : String) (limit : Nat)
  | missingAttribute (tag attr : String) (line : Nat)
  | invalidAttribute (tag attr value : String) (fault : AttributeFault) (line : Nat)
  | condition (fault : Condition.Fault) (line : Nat)
  | undefinedVariable (name : String) (line : Nat)
  | misplaced (tag : String) (allowed : Placement) (line : Nat)
  | tooDeep (limit line : Nat)
  | breakOutsideLoop
  | aborted (message : String)
  | unknownTag (name : String)
  /-- A handler of the host gives up. -/
  | handler (tag message : String)
deriving Repr

def RenderError.message : RenderError → String
  | .missingRequiredParam name line => s!"Missing required parameter '{name}' at line {line}"
  | .invalidParamType name expected line =>
    s!"Parameter '{name}' at line {line} is not of type {expected}"
  | .loopLimitExceeded limit line =>
    s!"Loop at line {line} exceeded the limit of {limit} iterations"
  | .includeResolution path reason => s!"Cannot resolve include '{path}': {reason}"
  | .includeParse path error => s!"Cannot parse include '{path}': {error.message}"
  | .includeDepthExceeded path limit => s!"Include depth limit of {limit} exceeded at '{path}'"
  | .missingAttribute tag attr line =>
    s!"<{tag}> at line {line} requires attribute '{attr}'"
  | .invalidAttribute tag attr value fault line =>
    s!"Invalid value '{value}' for attribute '{attr}' of <{tag}> at line {line}: " ++
      fault.description
  | .condition fault line => s!"Invalid condition at line {line}: {fault.message}"
  | .undefinedVariable name line => s!"Undefined variable '{name}' at line {line}"
  | .misplaced tag allowed line =>
    s!"<{tag}> at line {line} is only allowed {allowed.description}"
  | .tooDeep limit line => s!"Tags nest deeper than {limit} levels at line {line}"
  | .breakOutsideLoop => "<cfbreak> used outside of a loop"
  | .aborted message => s!"Aborted: {message}"
  | .unknownTag name => s!"No handler registered for <{name}>"
  | .handler tag message => s!"<{tag}> failed: {message}"

end TagTemplate
