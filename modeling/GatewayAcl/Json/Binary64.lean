import GatewayAcl.Power

/-!
# Binary floating point in 64 bits

A finite double-precision number as its bit pattern. Everything here is exact
arithmetic on natural numbers: a magnitude is a fraction, an operation computes
the fraction of its result, and `nearest` rounds a fraction to the closest
representable magnitude, a tie going to the even one.

The shortest decimal of a number is found by its definition. For one digit, two
digits and so on, the two neighbours of the number on that decimal grid are
tried, and the first grid that has a neighbour which rounds to the number wins.
-/

namespace GatewayAcl.Json

/-- A double-precision number by its bits: sign, exponent and fraction. -/
structure Binary64 where
  bits : Nat
  deriving DecidableEq, Repr

namespace Binary64

/-- The sign bit is set. -/
def isNegative (number : Binary64) : Bool :=
  Power.ofTwo 63 ≤ number.bits

/-- The bits without the sign. -/
def magnitude (number : Binary64) : Nat :=
  number.bits % Power.ofTwo 63

/-- The magnitude is beyond every finite one. -/
def isInfinite (number : Binary64) : Bool :=
  2047 * Power.ofTwo 52 ≤ number.magnitude

/-- The significand of a finite number. -/
def significand (number : Binary64) : Nat :=
  let fraction := number.magnitude % Power.ofTwo 52
  if number.magnitude < Power.ofTwo 52 then fraction else Power.ofTwo 52 + fraction

/-- The exponent of the unit of the significand, counted from the least one,
that of `2 ^ -1074`. -/
def exponent (number : Binary64) : Nat :=
  number.magnitude / Power.ofTwo 52 - 1

/-- The number with the sign bit set. -/
def negate (number : Binary64) : Binary64 :=
  ⟨number.bits + Power.ofTwo 63⟩

/-- The magnitude as a fraction, its numerator and its denominator. -/
def fraction (number : Binary64) : Nat × Nat :=
  (number.significand * Power.ofTwo number.exponent, Power.ofTwo 1074)

/-- A quotient rounded to the nearest natural number, a tie to the even one. -/
def roundedQuotient (numerator denominator : Nat) : Nat :=
  let quotient := numerator / denominator
  let twiceRest := 2 * (numerator % denominator)
  if denominator < twiceRest then quotient + 1
  else if twiceRest = denominator then quotient + quotient % 2
  else quotient

/-- The representable number closest to a fraction; infinity if the fraction
rounds beyond the largest finite one. The unit is chosen so that the significand
has 53 bits, or is the least one. -/
def nearest (numerator denominator : Nat) : Binary64 :=
  let scaled := numerator * Power.ofTwo 1074
  let size := (scaled / denominator).log2
  let exponent := size - 52
  let significand := roundedQuotient scaled (denominator * Power.ofTwo exponent)
  let magnitude :=
    if significand < Power.ofTwo 52 then significand
    else exponent * Power.ofTwo 52 + significand
  ⟨min magnitude (2047 * Power.ofTwo 52)⟩

/-- The closest number to a product of magnitudes. -/
def times (left right : Binary64) : Binary64 :=
  let (leftNumerator, leftDenominator) := left.fraction
  let (rightNumerator, rightDenominator) := right.fraction
  nearest (leftNumerator * rightNumerator) (leftDenominator * rightDenominator)

/-- The closest number to a quotient of magnitudes. -/
def dividedBy (left right : Binary64) : Binary64 :=
  let (leftNumerator, leftDenominator) := left.fraction
  let (rightNumerator, rightDenominator) := right.fraction
  nearest (leftNumerator * rightDenominator) (leftDenominator * rightNumerator)

def powerOfTen (exponent : Nat) : Binary64 :=
  nearest (Power.ofTen exponent) 1

/-- The position of the leading decimal digit of a positive fraction: the
exponent of the largest power of ten that is not above it. -/
def leadingPosition (numerator denominator : Nat) : Int :=
  let whole := numerator / denominator
  if 0 < whole then ((Nat.toDigits 10 whole).length : Int) - 1
  else
    match (List.range 330).find? fun shift => denominator ≤ numerator * Power.ofTen shift with
    | some shift => -(shift : Int)
    | none => -330

/-- A positive decimal: an integer and the exponent of ten it is multiplied by. -/
structure Decimal where
  digits : Nat
  exponent : Int
  deriving DecidableEq, Repr

/-- Whether a decimal rounds to a number. The interval around the number reaches
half a unit up and half a unit down, a quarter down if the number is the least
with its unit, and includes its ends if the significand is even. -/
def roundsTo (number : Binary64) (decimal : Decimal) : Bool :=
  let significand := number.significand
  let down :=
    if number.magnitude % Power.ofTwo 52 = 0 ∧ Power.ofTwo 53 ≤ number.magnitude then 1 else 2
  let unit := Power.ofTwo number.exponent
  let low := (4 * significand - down) * unit
  let high := (4 * significand + 2) * unit
  let scale := 4 * Power.ofTwo 1074
  let (value, scale) :=
    match decimal.exponent with
    | .ofNat power => (decimal.digits * Power.ofTen power * scale, 1)
    | .negSucc power => (decimal.digits * scale, Power.ofTen (power + 1))
  if significand % 2 = 0 then low * scale ≤ value && value ≤ high * scale
  else low * scale < value && value < high * scale

/-- The neighbour on the grid of the given number of digits that rounds to a
positive number, the nearer one if both do, and of two equally near ones the even
one. -/
def neighbour? (number : Binary64) (count : Nat) : Option Decimal :=
  let (numerator, denominator) := number.fraction
  let exponent := leadingPosition numerator denominator - (count : Int) + 1
  let (top, bottom) :=
    match exponent with
    | .ofNat power => (numerator, denominator * Power.ofTen power)
    | .negSucc power => (numerator * Power.ofTen (power + 1), denominator)
  let below := top / bottom
  let nearer := roundedQuotient top bottom
  let farther := if nearer = below then below + 1 else below
  if roundsTo number ⟨nearer, exponent⟩ then some ⟨nearer, exponent⟩
  else if roundsTo number ⟨farther, exponent⟩ then some ⟨farther, exponent⟩
  else none

/-- The shortest decimal that rounds to a positive number. Seventeen digits are
always enough. -/
def shortest (number : Binary64) : Decimal :=
  match (List.range 17).findSome? fun count => neighbour? number (count + 1) with
  | some decimal => decimal
  | none => ⟨0, 0⟩

/-- The digits of a decimal without trailing zeros, and the position of its
decimal point behind the first of them. -/
def Decimal.layout (decimal : Decimal) : List Char × Int :=
  let digits := Nat.toDigits 10 decimal.digits
  let point := (digits.length : Int) + decimal.exponent
  ((digits.reverse.dropWhile (· == '0')).reverse, point)

/-- Digits with a decimal point: positional where the point lies at most sixteen
places behind or at most four zeros in front of the first digit, and otherwise
with one digit in front of the point and a power of ten, which has a sign. -/
def spelled (digits : List Char) (point : Int) : List Char :=
  let count : Int := digits.length
  if count ≤ point ∧ point ≤ 16 then
    digits ++ List.replicate (point - count).toNat '0' ++ ['.', '0']
  else if 0 < point ∧ point ≤ 16 then
    digits.take point.toNat ++ '.' :: digits.drop point.toNat
  else if -5 < point ∧ point ≤ 0 then
    ['0', '.'] ++ List.replicate (-point).toNat '0' ++ digits
  else
    let power := 'e' :: (if 0 < point then ['+'] else []) ++ (toString (point - 1)).toList
    match digits with
    | [first] => first :: power
    | first :: others => first :: '.' :: others ++ power
    | [] => power

/-- The shortest text that reads back as the number. -/
def print (number : Binary64) : String :=
  let magnitude : List Char :=
    if number.magnitude = 0 then ['0', '.', '0']
    else
      let (digits, point) := number.shortest.layout
      spelled digits point
  String.ofList (if number.isNegative then '-' :: magnitude else magnitude)

end Binary64

end GatewayAcl.Json
