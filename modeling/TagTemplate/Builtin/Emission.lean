import TagTemplate.Handler.Basic

/-!
# Output and control

`cfoutput` and `cfdump` have references in their bodies replaced, and the second one shows the
structure of a value. `cfinclude` puts another template in its place. `cfbreak` ends the loop
around it, and `cfabort` the whole render, with the output so far or with an error.
-/

namespace TagTemplate.Builtin

/-- Replaces references in its body. -/
def output : Handler where
  hasBody := true
  answersTo name := name == "output"
  interpolation := some true

/-- Adds the structure of the value of `var`. -/
def describeVariable (e : Element) (text : String) : Program String := do
  let scope ← Program.scope
  match e.tag.value? scope "var" with
  | some v => .done (text ++ v.describe)
  | none => .done text

/-- Replaces references in its body, and shows a value after it. -/
def dump : Handler where
  hasBody := true
  answersTo name := name == "dump"
  interpolation := some true
  exit := describeVariable

/-- The path of an include: `template`, or else `path`. -/
def includePath (tag : Tag) (scope : Scope) : Except RenderError String :=
  match tag.text? scope "template" with
  | some path => .ok path
  | none =>
    match tag.text? scope "path" with
    | some path => .ok path
    | none => .error (.missingAttribute tag.name "template" tag.span.line)

/-- Renders another template. -/
def embedTemplate (e : Element) : Program (String × Flow) := do
  let scope ← Program.scope
  let path ← .ofExcept (includePath e.tag scope)
  .embedded path

/-- Puts another template in its place. -/
def includeTag : Handler where
  hasBody := false
  answersTo name := name == "include"
  body := embedTemplate

/-- Ends the loop around it. -/
def breakTag : Handler where
  hasBody := false
  answersTo name := name == "break"
  body _ := .done ("", .breakLoop)

/-- Ends the render, or fails with the message to show. -/
def abortRender (e : Element) : Program (String × Flow) := do
  let scope ← Program.scope
  match e.tag.text? scope "showerror" with
  | some message => .fail (.aborted message)
  | none => .done ("", .abort)

/-- Ends the render. -/
def abortTag : Handler where
  hasBody := false
  answersTo name := name == "abort"
  body := abortRender

end TagTemplate.Builtin
