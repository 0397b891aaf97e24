import TagTemplate.Handler.Basic
import TagTemplate.Text.Split

/-!
# Loops

`cfloop` renders its body over and over. A loop with a condition goes on while it holds, and asks
again before each pass. Any other loop runs over elements that are fixed before the first pass:
the numbers from one bound to another, the pieces of a text or the items of a list. The element
of a pass is bound to `item`, and its place, from 1, to `index`; without `item` the element itself
goes to `index`.

No loop makes more passes than the limit. A break ends the loop and what surrounds it proceeds; an
abort goes on outwards.
-/

namespace TagTemplate.Builtin

/-! ## The elements -/

/-- The error that a loop does not end in time. -/
def loopLimitExceeded (tag : Tag) (limit : Nat) : RenderError :=
  .loopLimitExceeded limit tag.span.line

/-- The finite number that an attribute denotes. -/
def finiteNumber (tag : Tag) (scope : Scope) (name : String) : Except RenderError Float :=
  match tag.requireText scope name with
  | .error e => .error e
  | .ok text =>
    match Decimal.read? text with
    | some x => if x.isFinite then .ok x else .error (tag.invalid name text .notFinite)
    | none => .error (tag.invalid name text .notFinite)

/-- The numbers `first`, `first + step`, … as far as the last one does not pass `last`, if the
limit allows so many. -/
def numbersBetween (tag : Tag) (limit : Nat) (first last step : Float) :
    Except RenderError (List Value) :=
  let span := ((last - first) / step).floor
  if span < 0 then .ok []
  else if Decimal.ofRatio limit 1 < span + 1 then .error (loopLimitExceeded tag limit)
  else .ok ((List.range (span.toUInt64.toNat + 1)).map fun i =>
    .number (first + i.toUInt64.toFloat * step))

/-- The elements of a loop over numbers. -/
def rangeElements (tag : Tag) (scope : Scope) (limit : Nat) : Except RenderError (List Value) := do
  let first ← finiteNumber tag scope "from"
  let last ← finiteNumber tag scope "to"
  let step ← if tag.attributes.contains "step" then finiteNumber tag scope "step" else .ok 1
  if step == 0 then .error (tag.invalid "step" "0" .zeroStep)
  else numbersBetween tag limit first last step

/-- The pieces of a text that are not empty. -/
def nonemptyPieces (delimiters text : String) : List Value :=
  ((Text.splitAny delimiters text).filter (!·.isEmpty)).map .text

/-- The elements of a `list`: its items, or the pieces of its text. -/
def listElements (tag : Tag) (v : Value) : List Value :=
  match v.asList? with
  | some items => items
  | none => nonemptyPieces ((tag.attr? "delimiters").getD ",") v.display

/-- The items of an `array`. -/
def arrayElements (tag : Tag) (v : Value) : Except RenderError (List Value) :=
  match v.asList? with
  | some items => .ok items
  | none => .error (tag.invalid "array" v.display .notAList)

/-- The elements, if the limit allows so many. -/
def withinLimit (tag : Tag) (limit : Nat) (items : List Value) : Except RenderError (List Value) :=
  if limit < items.length then .error (loopLimitExceeded tag limit) else .ok items

/-- The elements of a loop without a condition. -/
def loopElements (tag : Tag) (scope : Scope) (limit : Nat) : Except RenderError (List Value) :=
  if tag.attributes.contains "from" || tag.attributes.contains "to" then
    rangeElements tag scope limit >>= withinLimit tag limit
  else match tag.value? scope "list" with
    | some v => withinLimit tag limit (listElements tag v)
    | none =>
      match tag.value? scope "array" with
      | some v => arrayElements tag v >>= withinLimit tag limit
      | none =>
        .error (.missingAttribute tag.name "condition, from/to, list or array" tag.span.line)

/-! ## The passes -/

/-- Binds the element at a place, counted from 0. -/
def bindElement (tag : Tag) (place : Nat) (element : Value) (scope : Scope) : Scope :=
  let number : Value := .number (place + 1).toUInt64.toFloat
  match tag.attr? "item", tag.attr? "index" with
  | some item, some index => (scope.insert item element).insert index number
  | some item, none => scope.insert item element
  | none, some index => scope.insert index element
  | none, none => scope

/-- What a loop does after a pass: it goes on, or it ends with what was rendered. -/
def afterPass (out : String) (rendered : Rendered) (onward : String → Program (String × Flow)) :
    Program (String × Flow) :=
  match rendered.outcome with
  | .error e => .fail e
  | .ok .proceed => onward (out ++ rendered.text)
  | .ok .breakLoop => .done (out ++ rendered.text, .proceed)
  | .ok .abort => .done (out ++ rendered.text, .abort)

/-- A pass for each element, the first of them at a place. -/
def passOver (tag : Tag) : (place : Nat) → List Value → (out : String) → Program (String × Flow)
  | _, [], out => .done (out, .proceed)
  | place, element :: rest, out =>
    .update (bindElement tag place element)
      (.render .body fun rendered => afterPass out rendered (passOver tag (place + 1) rest))

/-- A pass as long as a condition holds, `left` of `limit` being left. -/
def passWhile (tag : Tag) (condition : String) (limit : Nat) :
    (left : Nat) → (out : String) → Program (String × Flow)
  | left, out => .look fun view =>
    match tag.conditionHolds condition view.scope with
    | .error e => .fail e
    | .ok false => .done (out, .proceed)
    | .ok true =>
      match left with
      | 0 => .fail (loopLimitExceeded tag limit)
      | left + 1 => .render .body fun rendered =>
        afterPass out rendered (passWhile tag condition limit left)

/-- The passes of a loop. -/
def loopBody (e : Element) : Program (String × Flow) := do
  let limit := (← Program.limits).loopLimit
  match e.tag.attr? "condition" with
  | some condition => passWhile e.tag condition limit limit ""
  | none =>
    let scope ← Program.scope
    let elements ← .ofExcept (loopElements e.tag scope limit)
    passOver e.tag 0 elements ""

/-- Renders its body over and over. -/
def loop : Handler where
  hasBody := true
  answersTo name := name == "loop"
  body := loopBody

end TagTemplate.Builtin
