import GatewayAcl.Json.Basic
import GatewayAcl.Json.TextFault
import GatewayAcl.Power

/-!
# JSON numerals

The number that a numeral stands for. An integer of 64 bits, with or without a
sign, is kept as it is. Every other numeral is a float: its leading digits, as
many as fit in 64 bits, are rounded to a float, and this is multiplied or
divided by a power of ten, with one more rounding. Digits behind those only
shift the point.
-/

namespace GatewayAcl.Json

/-- The parts of a numeral, each a list of digits. -/
structure Numeral where
  negative : Bool
  whole : List Nat
  fraction : List Nat
  /-- The sign of the power of ten and its digits. -/
  power : Option (Bool × List Nat)
  /-- The numeral has neither a point nor a power of ten. -/
  plain : Bool

namespace Numeral

def ofDigits (digits : List Nat) : Nat :=
  digits.foldl (fun number digit => number * 10 + digit) 0

/-- Appends digits to a number as long as it fits in 64 bits, and counts the
digits that were left over. -/
def absorb (start : Nat) : List Nat → Nat × Nat
  | [] => (start, 0)
  | digit :: digits =>
      if start * 10 + digit < Power.ofTwo 64 then absorb (start * 10 + digit) digits
      else (start, digits.length + 1)

/-- A float multiplied by a power of ten; none if it is beyond all floats. Powers
beyond the largest representable one are divided out in steps of that one. -/
def scale? : Nat → Binary64 → Int → Option Binary64
  | 0, value, _ => some value
  | steps + 1, value, exponent =>
      if exponent.natAbs ≤ 308 then
        let power := Binary64.powerOfTen exponent.natAbs
        if 0 ≤ exponent then
          let product := value.times power
          if product.isInfinite then none else some product
        else some (value.dividedBy power)
      else if value.magnitude = 0 then some value
      else if 0 ≤ exponent then none
      else scale? steps (value.dividedBy (Binary64.powerOfTen 308)) (exponent + 308)

/-- The magnitude of a numeral as a float; none if it is beyond all floats. -/
def magnitude? (numeral : Numeral) : Option Binary64 :=
  let (significand, leftOver) := absorb 0 numeral.whole
  let (significand, unused) := absorb significand numeral.fraction
  let shift : Int := leftOver - (numeral.fraction.length - unused : Nat)
  let start := Binary64.nearest significand 1
  match numeral.power with
  | none => scale? 8 start shift
  | some (negative, digits) =>
      let power : Int := ofDigits digits
      if power ≤ 2147483647 then
        scale? 8 start (if negative then shift - power else shift + power)
      else if significand ≠ 0 ∧ !negative then none
      else some ⟨0⟩

/-- The number that a numeral stands for. The negative zero is a float. -/
def number (numeral : Numeral) : Except TextFault Number :=
  let value := ofDigits numeral.whole
  if numeral.plain && !numeral.negative && decide (value < Power.ofTwo 64) then
    .ok (.integer value)
  else if numeral.plain && numeral.negative && decide (0 < value ∧ value ≤ Power.ofTwo 63) then
    .ok (.integer (-value))
  else
    match numeral.magnitude? with
    | none => .error .numberOutOfRange
    | some magnitude =>
        .ok (.float (if numeral.negative then magnitude.negate else magnitude))

end Numeral

end GatewayAcl.Json
