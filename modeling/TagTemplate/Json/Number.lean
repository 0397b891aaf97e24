import TagTemplate.Decimal.Numeral

/-!
# The numbers of JSON

A literal denotes a double, found with little work: as many digits as 64 bits hold make a
significand, the digits after these only count, and the significand is multiplied or divided by one
power of ten. Each of the three steps rounds, so the result can be a neighbour of the nearest
double. A literal beyond the largest double denotes nothing.
-/

namespace TagTemplate.Json

/-- Reads digits onto a significand as long as it stays below `2 ^ 64`; returns it with the digits
that it took and those that it did not. -/
def growSignificand (significand : Nat) (taken : Nat) : List Char → Nat × Nat × List Char
  | [] => (significand, taken, [])
  | c :: rest =>
    let next := significand * 10 + (c.toNat - 48)
    if next < UInt64.size then growSignificand next (taken + 1) rest
    else (significand, taken, c :: rest)

/-- A power of ten, at most the greatest below the largest double. -/
def powerOfTen (n : Nat) : Float := Decimal.ofDecimal 1 n

/-- `x · 10 ^ exponent` in double arithmetic; nothing beyond the largest double. A very small
power is reached in several divisions. -/
def scaleByTen (x : Float) (exponent : Int) : Option Float :=
  if exponent.natAbs ≤ 308 then
    if 0 ≤ exponent then
      let y := x * powerOfTen exponent.natAbs
      if y.isInf then none else some y
    else some (x / powerOfTen exponent.natAbs)
  else if x == 0 then some x
  else if 0 ≤ exponent then none
  else scaleByTen (x / powerOfTen 308) (exponent + 308)
termination_by exponent.natAbs
decreasing_by omega

/-- The parts of a literal without sign: the digits before and after the point, and the exponent
with its sign, if there is one. -/
structure Literal where
  whole : List Char
  fraction : List Char
  exponent : Option (Bool × List Char)

/-- The parts of a literal that the grammar allows. -/
def Literal.ofChars (cs : List Char) : Literal :=
  let (whole, rest) := Decimal.spanDigits cs
  let (fraction, rest) := match rest with
    | '.' :: rest => Decimal.spanDigits rest
    | rest => ([], rest)
  let exponent := match rest with
    | [] => none
    | _ :: '-' :: digits => some (true, digits)
    | _ :: '+' :: digits => some (false, digits)
    | _ :: digits => some (false, digits)
  ⟨whole, fraction, exponent⟩

/-- The double that the parts denote. An exponent of more than 31 bits stands for zero or for
nothing. -/
def Literal.value? (l : Literal) : Option Float :=
  let (significand, _, dropped) := growSignificand 0 0 l.whole
  let (significand, taken, _) := growSignificand significand 0 l.fraction
  let start : Int := dropped.length - taken
  let x := Decimal.ofRatio significand 1
  match l.exponent with
  | none =>
    if l.fraction.isEmpty && dropped.isEmpty then some x else scaleByTen x start
  | some (negative, digits) =>
    let n := Decimal.valueOf digits
    if Decimal.twoTo 31 ≤ n then
      if significand ≠ 0 ∧ !negative then none else some 0
    else scaleByTen x (if negative then start - n else start + n)

/-- The double that a literal denotes. -/
def numberOf? : List Char → Option Float
  | '-' :: rest => (Literal.ofChars rest).value?.map (- ·)
  | cs => (Literal.ofChars cs).value?

end TagTemplate.Json
