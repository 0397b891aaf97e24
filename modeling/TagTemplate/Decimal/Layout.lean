import TagTemplate.Decimal.Shortest

/-!
# Writing doubles

The shortest decimal of a double, laid out. A layout says which numbers are written with all
their places and which with an exponent, whether a whole number keeps a point, and how the
values without digits read.
-/

namespace TagTemplate.Decimal

/-- How doubles are written. A number with digits before and after the point is written with all
its places when the place of its first digit, counted from the point to the left, satisfies
`positional`; otherwise with an exponent. -/
structure Layout where
  positional : Int → Bool
  /-- Whether a whole number ends in `.0` when written with all its places. -/
  wholePoint : Bool
  /-- Whether an exponent that is not negative has a plus. -/
  exponentPlus : Bool
  /-- Whether the zero below keeps its sign. -/
  signedZero : Bool
  tie : Tie
  nan : String
  infinity : String

/-- The digits of a natural number. -/
def digitsOf (n : Nat) : List Char := Nat.toDigits 10 n

/-- `digits · 10 ^ k` with all its places. -/
def positionalChars (wholePoint : Bool) (digits : List Char) (k : Int) : List Char :=
  let point := digits.length + k
  if 0 ≤ k then
    digits ++ List.replicate k.toNat '0' ++ (if wholePoint then ['.', '0'] else [])
  else if 0 < point then
    digits.take point.toNat ++ '.' :: digits.drop point.toNat
  else '0' :: '.' :: List.replicate (-point).toNat '0' ++ digits

/-- `digits · 10 ^ k` with one digit before the point and an exponent. -/
def exponentChars (plus : Bool) (digits : List Char) (k : Int) : List Char :=
  let exponent := digits.length + k - 1
  let mantissa := match digits with
    | [] => []
    | [d] => [d]
    | d :: rest => d :: '.' :: rest
  let sign := if exponent < 0 then ['-'] else if plus then ['+'] else []
  mantissa ++ 'e' :: sign ++ digitsOf exponent.natAbs

/-- A double as the layout writes it. -/
def Layout.write (layout : Layout) (x : Float) : String :=
  match Binary64.ofFloat x with
  | .nan => layout.nan
  | .infinite negative => (if negative then "-" else "") ++ layout.infinity
  | .finite negative 0 _ =>
    let zero := positionalChars layout.wholePoint ['0'] 0
    String.ofList (if negative && layout.signedZero then '-' :: zero else zero)
  | .finite negative m q =>
    let (n, k) := shortest layout.tie m q
    let digits := digitsOf n
    let body :=
      if layout.positional (digits.length + k) then positionalChars layout.wholePoint digits k
      else exponentChars layout.exponentPlus digits k
    String.ofList (if negative then '-' :: body else body)

end TagTemplate.Decimal
