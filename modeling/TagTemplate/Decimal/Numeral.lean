import TagTemplate.Decimal.Binary64
import TagTemplate.Text.Blank

/-!
# Reading numerals

A numeral is an optional sign and then either decimal digits, with or without a point among them
and a power of ten after them, or one of the words `inf`, `infinity` and `nan` in any case. At
least one digit stands before the exponent, on whichever side of the point. The value is the
nearest double; but the digits of an exponent count only until it has reached 65536, so that a
numeral with as many digits after its point can denote less than it says.
-/

namespace TagTemplate.Decimal

/-- The number that decimal digits denote. -/
def valueOf (digits : List Char) : Nat :=
  digits.foldl (fun n c => 10 * n + (c.toNat - 48)) 0

/-- The digits at the head, and the rest. -/
def spanDigits (cs : List Char) : List Char × List Char :=
  (cs.takeWhile Char.isDigit, cs.dropWhile Char.isDigit)

/-- The number that the digits of an exponent denote. No digit counts after it has reached
65536. -/
def exponentOf (digits : List Char) : Nat :=
  digits.foldl (fun n c => if n < 65536 then 10 * n + (c.toNat - 48) else n) 0

/-- A power of ten to the end of the numeral: nothing, or `e` with an optional sign and digits. -/
def readExponent : List Char → Option Int
  | [] => some 0
  | c :: rest =>
    if c = 'e' ∨ c = 'E' then
      let (negative, digits) := match rest with
        | '-' :: digits => (true, digits)
        | '+' :: digits => (false, digits)
        | digits => (false, digits)
      if digits.isEmpty || !digits.all Char.isDigit then none
      else
        let n : Int := exponentOf digits
        some (if negative then -n else n)
    else none

/-- How many digits decide on the nearest double: no double, and no middle between two, has as
many. -/
def decidingDigits : Nat := 800

/-- The double nearest to decimal digits times a power of ten. Of the digits after those that
decide, it matters only whether they are all zeros. -/
def nearest (digits : List Char) (exponent : Int) : Float :=
  let digits := digits.dropWhile (· == '0')
  let rest := digits.drop decidingDigits
  if rest.isEmpty then ofDecimal (valueOf digits) exponent
  else
    let last := if rest.all (· == '0') then '0' else '1'
    ofDecimal (valueOf (digits.take decidingDigits ++ [last])) (exponent + rest.length - 1)

/-- A numeral of digits, without sign. -/
def readDigits (cs : List Char) : Option Float :=
  let (whole, rest) := spanDigits cs
  let (fraction, rest) := match rest with
    | '.' :: rest => spanDigits rest
    | rest => ([], rest)
  if whole.isEmpty && fraction.isEmpty then none
  else (readExponent rest).map fun exponent =>
    nearest (whole ++ fraction) (exponent - fraction.length)

/-- A word for a double without digits. -/
def readWord (cs : List Char) : Option Float :=
  let word := cs.map Char.toLower
  if word = "inf".toList ∨ word = "infinity".toList then some (Float.ofBits 0x7ff0000000000000)
  else if word = "nan".toList then some (Float.ofBits 0x7ff8000000000000)
  else none

/-- A numeral without sign. -/
def readUnsigned (cs : List Char) : Option Float := readDigits cs <|> readWord cs

/-- The double that a numeral denotes. -/
def readChars : List Char → Option Float
  | '-' :: rest => (readUnsigned rest).map (- ·)
  | '+' :: rest => readUnsigned rest
  | cs => readUnsigned cs

/-- The double that a text denotes, blanks at its ends aside. -/
def read? (s : String) : Option Float := readChars (Text.trimChars s.toList)

end TagTemplate.Decimal
