import TagTemplate.Decimal.Binary64

/-!
# The shortest decimal of a double

Among the decimals that read back as a given double, the shortest ones have the fewest digits,
and of these the nearest to the double is wanted. The decimals that read back fill an interval
around the double, whose ends belong to it when the significand is even. On each grid of
multiples of a power of ten only the two neighbours of the double need a look: if any point of the
grid lies in the interval, one of these does. So the grids are tried from the coarsest on.
-/

namespace TagTemplate.Decimal

/-- Which of two equally near decimals is taken. -/
inductive Tie where
  | up
  | toEven
deriving Repr, DecidableEq

/-- The decimals that read back as `4m · 2 ^ (q - 2)`: the bounds in units of `2 ^ (q - 2)`, and
whether they belong to it. Below a power of two the doubles lie twice as close. -/
structure Interval where
  low : Nat
  middle : Nat
  high : Nat
  closed : Bool

/-- The interval of a positive `m · 2 ^ q`. -/
def Interval.around (m : Nat) (q : Int) : Interval :=
  let closer := m = twoTo 52 ∧ -1074 < q
  ⟨4 * m - (if closer then 1 else 2), 4 * m, 4 * m + 2, m % 2 = 0⟩

/-- Whether the interval holds a number, all in one unit. -/
def Interval.holds (i : Interval) (unit x : Nat) : Bool :=
  if i.closed then i.low * unit ≤ x && x ≤ i.high * unit
  else i.low * unit < x && x < i.high * unit

/-- The multiple of `10 ^ k` nearest to the middle that reads back, if there is one. Both the
interval, counted in `2 ^ (q - 2)`, and the grid are brought to one unit. -/
def onGrid (tie : Tie) (i : Interval) (q k : Int) : Option Nat :=
  let two := q - 2
  let unit := twoTo two.toNat * tenTo (-k).toNat
  let grid := tenTo k.toNat * twoTo (-two).toNat
  let middle := i.middle * unit
  let below := middle / grid
  let above := below + 1
  match i.holds unit (below * grid), i.holds unit (above * grid) with
  | false, false => none
  | true, false => some below
  | false, true => some above
  | true, true =>
    let fromBelow := middle - below * grid
    let fromAbove := above * grid - middle
    if fromBelow < fromAbove then some below
    else if fromAbove < fromBelow then some above
    else match tie with
      | .up => some above
      | .toEven => some (if below % 2 = 0 then below else above)

/-- The first grid with a decimal that reads back, from `10 ^ k` on to finer ones. -/
def firstGrid (tie : Tie) (i : Interval) (q : Int) : (grids : Nat) → (k : Int) → Nat × Int
  | 0, k => (0, k)
  | grids + 1, k =>
    match onGrid tie i q k with
    | some digits => (digits, k)
    | none => firstGrid tie i q grids (k - 1)

/-- The whole number `m · 2 ^ q`, if it is one and its neighbours are at most one apart. -/
def wholeNumber? (m : Nat) (q : Int) : Option Nat :=
  if -52 ≤ q ∧ q ≤ 0 then
    let unit := twoTo (-q).toNat
    if m % unit = 0 then some (m / unit) else none
  else none

/-- `n · 10 ^ k` without the zeros at the end of `n`. -/
def withoutZeros (n : Nat) (k : Int) : Nat × Int :=
  if n ≠ 0 ∧ n % 10 = 0 then withoutZeros (n / 10) (k + 1) else (n, k)
termination_by n
decreasing_by omega

/-- The digits and the power of ten of the shortest decimal of a positive `m · 2 ^ q`. What reads
back as a whole number with close neighbours lies at most half away from it, so on a grid of whole
numbers only that number itself does, and no search is needed. Otherwise the first grid is coarser
than the number, and seventeen digits always read back. -/
def shortest (tie : Tie) (m : Nat) (q : Int) : Nat × Int :=
  match wholeNumber? m q with
  | some n => withoutZeros n 0
  | none =>
    let k := ((m.log2 + q) * 30103) / 100000 + 2
    firstGrid tie (.around m q) q 22 k

end TagTemplate.Decimal
