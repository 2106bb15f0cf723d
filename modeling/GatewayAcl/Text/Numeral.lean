/-!
# Numerals

Reading and writing natural numbers in a radix of at most sixteen. A numeral is
read as the longest run of digits in front of a text; limits on the number of
digits and on the value are the reader's own.
-/

namespace GatewayAcl.Text

/-- The value of a digit below the radix; letters count in either case. -/
def digitValue? (radix : Nat) (char : Char) : Option Nat :=
  let value? :=
    if '0' ≤ char && char ≤ '9' then some (char.toNat - '0'.toNat)
    else if 'a' ≤ char && char ≤ 'f' then some (char.toNat - 'a'.toNat + 10)
    else if 'A' ≤ char && char ≤ 'F' then some (char.toNat - 'A'.toNat + 10)
    else none
  value?.filter (· < radix)

/-- The values of the digits in front of a text, and what follows them. -/
def digitRun (radix : Nat) : List Char → List Nat × List Char
  | [] => ([], [])
  | char :: rest =>
      match digitValue? radix char with
      | none => ([], char :: rest)
      | some value =>
          let (values, after) := digitRun radix rest
          (value :: values, after)

/-- The number written by a list of digits, the most significant first. -/
def ofDigits (radix : Nat) (digits : List Nat) : Nat :=
  digits.foldl (fun number digit => number * radix + digit) 0

/-- A numeral of one to `maxDigits` digits and a value below `bound`, and what
follows it. A longer run of digits is refused, not cut. -/
def readNumeral (radix maxDigits bound : Nat) (text : List Char) :
    Option (Nat × List Char) :=
  let (digits, rest) := digitRun radix text
  let number := ofDigits radix digits
  if 1 ≤ digits.length ∧ digits.length ≤ maxDigits ∧ number < bound then
    some (number, rest)
  else none

/-- A number below `bound` that fills the whole text, with an optional plus sign
in front and any number of leading zeros. -/
def readWhole (bound : Nat) (text : List Char) : Option Nat :=
  let unsigned :=
    match text with
    | '+' :: rest => rest
    | _ => text
  let (digits, rest) := digitRun 10 unsigned
  let number := ofDigits 10 digits
  if digits ≠ [] ∧ rest = [] ∧ number < bound then some number else none

def decimal (number : Nat) : List Char :=
  Nat.toDigits 10 number

def hexadecimal (number : Nat) : List Char :=
  Nat.toDigits 16 number

end GatewayAcl.Text
