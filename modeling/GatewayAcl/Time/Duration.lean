import GatewayAcl.Text.Numeral

/-!
# Durations

A duration in whole milliseconds. It is written in seconds from one second on,
with up to three decimal places, and in milliseconds below.
-/

namespace GatewayAcl

open Text

/-- A span of time in milliseconds. -/
structure Duration where
  milliseconds : Nat
  deriving DecidableEq, Repr

namespace Duration

instance : LE Duration := ⟨fun left right => left.milliseconds ≤ right.milliseconds⟩

instance (left right : Duration) : Decidable (left ≤ right) :=
  inferInstanceAs (Decidable (left.milliseconds ≤ right.milliseconds))

/-- A number below 1000 as three decimal places without trailing zeros. -/
def decimalPlaces (thousandths : Nat) : List Char :=
  let digits := decimal (thousandths / 100) ++ decimal (thousandths / 10 % 10) ++
    decimal (thousandths % 10)
  (digits.reverse.dropWhile (· == '0')).reverse

def print (duration : Duration) : String :=
  let seconds := duration.milliseconds / 1000
  let rest := duration.milliseconds % 1000
  if duration.milliseconds = 0 then "0ns"
  else if seconds = 0 then String.ofList (decimal rest ++ ['m', 's'])
  else if rest = 0 then String.ofList (decimal seconds ++ ['s'])
  else String.ofList (decimal seconds ++ '.' :: decimalPlaces rest ++ ['s'])

end Duration

end GatewayAcl
