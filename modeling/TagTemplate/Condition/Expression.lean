import TagTemplate.Condition.Token
import TagTemplate.Variables.Scope

/-!
# The meaning of a condition

An expression compares values and joins truth values. Two values are compared as truth values when
one of them is a truth value; else as numbers when both are, or denote, numbers; else as texts in
small letters. Two numbers that are in no order count as equal.
-/

namespace TagTemplate.Condition

/-- What a condition says. -/
inductive Expression where
  | number (x : Float)
  | text (s : String)
  | bool (b : Bool)
  | variable (name : String)
  | compare (op : Comparison) (left right : Expression)
  | not (e : Expression)
  | and (left right : Expression)
  | or (left right : Expression)
  /-- An expression in parentheses. -/
  | group (e : Expression)
deriving Repr, Inhabited

/-- The order of two doubles. -/
def orderNumbers (x y : Float) : Ordering :=
  if x < y then .lt else if y < x then .gt else .eq

/-- The order of two truth values, false first. -/
def orderBools : Bool → Bool → Ordering
  | false, true => .lt
  | true, false => .gt
  | _, _ => .eq

/-- A value as a text in small letters. -/
def foldedText (v : Value) : String := Text.lowercase v.display

/-- The order of two values. -/
def order (left right : Value) : Ordering :=
  match left, right with
  | .bool b, right => orderBools b right.isTruthy
  | left, .bool b => orderBools left.isTruthy b
  | left, right =>
    match left.asNumber?, right.asNumber? with
    | some x, some y => orderNumbers x y
    | _, _ => Ord.compare (foldedText left) (foldedText right)

/-- Whether a comparison holds. -/
def Comparison.holds (op : Comparison) (left right : Value) : Bool :=
  match op with
  | .equal => order left right == .eq
  | .notEqual => order left right != .eq
  | .greater => order left right == .gt
  | .greaterOrEqual => order left right != .lt
  | .less => order left right == .lt
  | .lessOrEqual => order left right != .gt
  | .contains => (foldedText left).contains (foldedText right)

/-- The value of an expression. A variable that is not bound counts as null here; whether one is
left unbound is asked before. -/
def Expression.value (scope : Scope) : Expression → Value
  | .number x => .number x
  | .text s => .text s
  | .bool b => .bool b
  | .variable name => (scope.get? name).getD .null
  | .compare op left right => .bool (op.holds (left.value scope) (right.value scope))
  | .not e => .bool !(e.value scope).isTruthy
  | .and left right => .bool ((left.value scope).isTruthy && (right.value scope).isTruthy)
  | .or left right => .bool ((left.value scope).isTruthy || (right.value scope).isTruthy)
  | .group e => e.value scope

/-- The variables of an expression as they come in its text. -/
def Expression.variables : Expression → List String
  | .variable name => [name]
  | .compare _ left right => left.variables ++ right.variables
  | .not e => e.variables
  | .and left right => left.variables ++ right.variables
  | .or left right => left.variables ++ right.variables
  | .group e => e.variables
  | _ => []

/-- What a name in a condition says: a truth value or a variable. -/
def Expression.ofName (name : String) : Expression :=
  let folded := Text.foldAscii name
  if folded = "true" then .bool true
  else if folded = "false" then .bool false
  else .variable name

end TagTemplate.Condition
