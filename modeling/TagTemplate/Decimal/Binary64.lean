/-!
# Doubles as exact numbers

A finite double is `m · 2 ^ q` for natural `m` and integral `q`. This module reads that form off
the bits of a double, and goes the other way: from a quotient of naturals, or a decimal, to the
nearest double, a tie going to the even significand.
-/

namespace TagTemplate.Decimal

/-- A power of two. -/
def twoTo (n : Nat) : Nat := Nat.pow 2 n

/-- A power of ten. -/
def tenTo (n : Nat) : Nat := Nat.pow 10 n

/-- What a double stands for: nothing, an infinity, or a sign and `m · 2 ^ q`. -/
inductive Binary64 where
  | nan
  | infinite (negative : Bool)
  | finite (negative : Bool) (m : Nat) (q : Int)
deriving Repr, DecidableEq

/-- What a double stands for, from its bits. -/
def Binary64.ofBits (bits : Nat) : Binary64 :=
  let negative := decide (twoTo 63 ≤ bits)
  let exponent : Nat := bits / twoTo 52 % twoTo 11
  let fraction : Nat := bits % twoTo 52
  if exponent = 2047 then
    if fraction = 0 then .infinite negative else .nan
  else if exponent = 0 then .finite negative fraction (-1074)
  else .finite negative (twoTo 52 + fraction) ((exponent : Int) - 1075)

def Binary64.ofFloat (x : Float) : Binary64 := .ofBits x.toBits.toNat

/-- The quotient of two naturals, to the nearest, a tie to the even one. -/
def roundDiv (num den : Nat) : Nat :=
  let floor := num / den
  let twice := 2 * (num % den)
  if den < twice ∨ (twice = den ∧ floor % 2 = 1) then floor + 1 else floor

/-- A nearest quotient is at most half a unit away. -/
theorem roundDiv_near (num : Nat) {den : Nat} (h : 0 < den) :
    2 * (roundDiv num den * den) ≤ 2 * num + den ∧ 2 * num ≤ 2 * (roundDiv num den * den) + den := by
  have hd : den * (num / den) + num % den = num := Nat.div_add_mod num den
  have hm : num % den < den := Nat.mod_lt num h
  have hc : num / den * den = den * (num / den) := Nat.mul_comm ..
  unfold roundDiv
  simp only
  split
  · have : (num / den + 1) * den = num / den * den + den := by
      rw [Nat.add_mul, Nat.one_mul]
    omega
  · omega

/-- `num / den` over `2 ^ q`, as a quotient of naturals. -/
def scale (num den : Nat) (q : Int) : Nat × Nat :=
  if 0 ≤ q then (num, den * twoTo q.toNat) else (num * twoTo (-q).toNat, den)

/-- The bits of the positive double nearest to a quotient of naturals: the significand is counted
in units of `2 ^ q`, the finest that 53 bits and the range of exponents allow. A significand that
rounds up to `2 ^ 53` carries into the exponent, and past the last exponent stands infinity. -/
def bitsOfRatio (num den : Nat) : Nat :=
  if num = 0 then 0
  else
    let coarse : Int := max ((num.log2 : Int) - den.log2 - 53) (-1074)
    let (n, d) := scale num den coarse
    let q := if twoTo 53 ≤ n / d then coarse + 1 else coarse
    let (n, d) := scale num den q
    min ((q + 1074).toNat * twoTo 52 + roundDiv n d) (2047 * twoTo 52)

/-- The double nearest to a quotient of naturals. -/
def ofRatio (num den : Nat) : Float := Float.ofBits (bitsOfRatio num den).toUInt64

/-- The double nearest to `digits · 10 ^ exponent`. Beyond the range of doubles the power of ten
is not computed. -/
def ofDecimal (digits : Nat) (exponent : Int) : Float :=
  if digits = 0 then 0
  else
    let magnitude : Int := digits.log2 * 30103 / 100000 + exponent
    if 400 < magnitude then Float.ofBits (2047 * twoTo 52).toUInt64
    else if magnitude < -400 then 0
    else if 0 ≤ exponent then ofRatio (digits * tenTo exponent.toNat) 1
    else ofRatio digits (tenTo (-exponent).toNat)

end TagTemplate.Decimal
