import TagTemplate.Source.Attributes
import TagTemplate.Source.Scanner

/-!
# Why a source is no template

Each cause with the place of the tag that is to blame.
-/

namespace TagTemplate

/-- Why a source cannot be parsed. A closing tag is named as written; an opening one by the
canonical name of its handler, save when its attributes cannot be read. -/
inductive ParseError where
  | scan (error : ScanError)
  | malformedAttribute (tag : String) (error : AttributeError) (line column : Nat)
  | unbalancedTag (expected found : String) (line column : Nat)
  | unexpectedClose (name : String) (line column : Nat)
  | unclosedTag (name : String) (line column : Nat)
  | tooDeep (name : String) (limit line column : Nat)
deriving Repr, DecidableEq

namespace ParseError

/-- The line of the offender. -/
def line : ParseError → Nat
  | .scan e => e.line
  | .malformedAttribute _ _ line _ => line
  | .unbalancedTag _ _ line _ => line
  | .unexpectedClose _ line _ => line
  | .unclosedTag _ line _ => line
  | .tooDeep _ _ line _ => line

def message : ParseError → String
  | .scan e => e.message
  | .malformedAttribute tag e line column =>
    s!"Malformed attribute in <{tag}> at line {line}, column {column}: {e.reason}"
  | .unbalancedTag expected found line column =>
    s!"Unbalanced tag at line {line}, column {column}: expected </{expected}>, found </{found}>"
  | .unexpectedClose name line column =>
    s!"Unexpected closing tag </{name}> at line {line}, column {column}"
  | .unclosedTag name line column =>
    s!"Unclosed tag <{name}> opened at line {line}, column {column}"
  | .tooDeep name limit line column =>
    s!"<{name}> at line {line}, column {column} nests deeper than {limit} tags"

end ParseError

end TagTemplate
