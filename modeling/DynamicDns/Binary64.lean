/-! # Binary floating-point numbers

The numbers of the 64-bit binary format, read from decimal notation and written
in it. Reading rounds to the nearest number of the format, ties to the even
mantissa. Writing takes the fewest digits that are read back as the same number,
of those the nearest to it, and of two that are equally near the larger. All
arithmetic is exact.
-/

namespace DynamicDns

/-- A number of the 64-bit binary format. -/
inductive Binary64 where
  /-- `mantissa * 2 ^ exponent`, negated if `negative`. -/
  | finite (negative : Bool) (mantissa : Nat) (exponent : Int)
  /-- Infinity, negated if `negative`. -/
  | infinite (negative : Bool)
  | nan
  deriving Repr, DecidableEq

namespace Binary64

/-- Least mantissa, except at the least exponent. Mantissas stay below its double. -/
def leastMantissa : Nat := Nat.pow 2 52

/-- Exponent of the numbers next to zero. -/
def leastExponent : Int := -1074

def greatestExponent : Int := 971

/-- A power as a fraction, for exponents of either sign. -/
def powerFraction (base : Nat) (exponent : Int) : Nat × Nat :=
  if 0 ≤ exponent then (Nat.pow base exponent.toNat, 1) else (1, Nat.pow base (-exponent).toNat)

/-- The quotient rounded to the nearest number, ties to the even one. -/
def roundedQuotient (num den : Nat) : Nat :=
  let q := num / den
  let twice := 2 * (num % den)
  if den < twice ∨ (twice = den ∧ q % 2 = 1) then q + 1 else q

/-- The number of the format nearest to a positive fraction. -/
def ofFraction (negative : Bool) (num den : Nat) : Binary64 :=
  let guess := (num.log2 : Int) - den.log2 - 52
  let scaled (exponent : Int) : Nat × Nat :=
    let (p, q) := powerFraction 2 exponent
    (num * q, den * p)
  let fitting :=
    let (n, d) := scaled guess
    if n / d < leastMantissa then guess - 1 else guess
  let exponent := max fitting leastExponent
  let (n, d) := scaled exponent
  let rounded := roundedQuotient n d
  let (mantissa, exponent) :=
    if rounded = 2 * leastMantissa then (leastMantissa, exponent + 1) else (rounded, exponent)
  if greatestExponent < exponent then .infinite negative else .finite negative mantissa exponent

/-- The number that `digits * 10 ^ exponent` is read as. Exponents far outside the range of the
    format are settled by the length of the digits alone. -/
def ofDecimal (negative : Bool) (digits : Nat) (exponent : Int) : Binary64 :=
  if digits = 0 then .finite negative 0 leastExponent
  else
    let magnitude := (Nat.toDigits 10 digits).length + exponent
    if 400 < magnitude then .infinite negative
    else if magnitude < -400 then .finite negative 0 leastExponent
    else
      let (p, q) := powerFraction 10 exponent
      ofFraction negative (digits * p) q

/-- The reals that are read as one number: a fraction of four times the number and of both ends,
    over one denominator, and whether the ends belong to them. -/
structure Neighbourhood where
  low : Nat
  centre : Nat
  high : Nat
  den : Nat
  /-- Whether both ends are read as the number, too. -/
  closed : Bool

/-- The reals that are read as `mantissa * 2 ^ exponent`. -/
def neighbourhood (mantissa : Nat) (exponent : Int) : Neighbourhood :=
  let (p, q) := powerFraction 2 (exponent - 2)
  let below := if mantissa = leastMantissa ∧ leastExponent < exponent then 1 else 2
  { low := (4 * mantissa - below) * p
    centre := 4 * mantissa * p
    high := (4 * mantissa + 2) * p
    den := q
    closed := mantissa % 2 = 0 }

/-- The multiple of `10 ^ exponent` that is read as the number and lies nearest to it, the larger
    one of two. -/
def Neighbourhood.onGrid? (n : Neighbourhood) (exponent : Int) : Option Nat :=
  let (p, q) := powerFraction 10 exponent
  let step := p * n.den
  let inside (multiple : Nat) : Bool :=
    let x := multiple * step
    if n.closed then n.low * q ≤ x && x ≤ n.high * q else n.low * q < x && x < n.high * q
  let centre := n.centre * q
  let lower := centre / step
  match inside lower && lower ≠ 0, inside (lower + 1) with
  | true, true => if 2 * (centre % step) < step then some lower else some (lower + 1)
  | true, false => some lower
  | false, true => some (lower + 1)
  | false, false => none

/-- The coarsest grid, from `10 ^ exponent` downwards, that has a point read as the number. -/
def Neighbourhood.shortest (n : Neighbourhood) : Nat → Int → Nat × Int
  | 0, exponent => (0, exponent)
  | steps + 1, exponent =>
    match n.onGrid? exponent with
    | some digits => (digits, exponent)
    | none => n.shortest steps (exponent - 1)

/-- The fewest digits that are read as a positive number, with the power of ten to scale them. No
    number of the format reaches `10 ^ 309`, and each is a multiple of `10 ^ (-1074)`. -/
def shortestDigits (mantissa : Nat) (exponent : Int) : Nat × Int :=
  (neighbourhood mantissa exponent).shortest 1400 309

/-- `digits * 10 ^ exponent` without an exponent, and with a point. -/
def positional (digits : Nat) (exponent : Int) : String :=
  let text := Nat.toDigits 10 digits
  let chars :=
    if 0 ≤ exponent then text ++ List.replicate exponent.toNat '0' ++ ['.', '0']
    else
      let places := (-exponent).toNat
      if places < text.length then
        text.take (text.length - places) ++ '.' :: text.drop (text.length - places)
      else '0' :: '.' :: List.replicate (places - text.length) '0' ++ text
  String.ofList chars

/-- The number in words of a message: never with an exponent, always with a point. -/
def display : Binary64 → String
  | .nan => "NaN"
  | .infinite negative => if negative then "-inf" else "inf"
  | .finite negative mantissa exponent =>
    let size :=
      if mantissa = 0 then positional 0 0
      else
        let (digits, power) := shortestDigits mantissa exponent
        positional digits power
    if negative then "-" ++ size else size

end Binary64

end DynamicDns
