import TagTemplate.Handler.Basic

/-!
# Branches

`cfif`, `cfelseif` and `cfelse`. The first two run when their condition holds; which of a chain is
asked at all is the walk's business. The condition is the attribute of that name, or else the
whole attribute text as written.
-/

namespace TagTemplate.Builtin

/-- The condition of a branch. -/
def conditionOf (tag : Tag) : String := (tag.attr? "condition").getD tag.raw

/-- The guard of a branch with a condition. -/
def conditionGuard (e : Element) : Program Bool := do
  let scope ← Program.scope
  .ofExcept (e.tag.conditionHolds (conditionOf e.tag) scope)

/-- The first branch of a chain. -/
def ifBranch : Handler where
  hasBody := true
  answersTo name := name == "if"
  branch := some .first
  guard := conditionGuard

/-- A branch with a condition of its own, after one that did not run. -/
def elseIfBranch : Handler where
  hasBody := true
  answersTo name := name == "elseif"
  branch := some .alternative
  guard := conditionGuard

/-- The branch that runs when no other did. -/
def elseBranch : Handler where
  hasBody := true
  answersTo name := name == "else"
  branch := some .last

end TagTemplate.Builtin
