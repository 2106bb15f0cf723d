import GatewayAcl.Power
import GatewayAcl.Text.Blank
import GatewayAcl.Text.Numeral

/-!
# Timestamps

Instants written as RFC 3339 date-times. Reading is relaxed: blanks may stand in
front of the numbers, of the separators and of the offset, a space may replace
the `T`, numbers may be shorter than usual, a year may have a sign and any
number of digits, and the offset may be `UTC`. Writing is in UTC, to the second.
-/

namespace GatewayAcl

open Text

/-- What keeps a text from being a timestamp. -/
inductive TimestampFault where
  | tooShort
  | tooLong
  | invalid
  | outOfRange
  | impossible
  deriving DecidableEq, Repr

def TimestampFault.message : TimestampFault → String
  | .tooShort => "premature end of input"
  | .tooLong => "trailing input"
  | .invalid => "input contains invalid characters"
  | .outOfRange => "input is out of range"
  | .impossible => "no possible date and time matching input"

/-- An instant: the seconds since the start of 1970 in UTC and the nanoseconds
behind them. Nanoseconds from one second on belong to a leap second. -/
structure Timestamp where
  seconds : Int
  nanoseconds : Nat
  deriving DecidableEq, Repr

namespace Timestamp

/-- A number of at least one and at most `maxDigits` digits, if there is a limit.
Numbers are kept within 63 bits. -/
def readNumber (maxDigits : Option Nat) (text : List Char) :
    Except TimestampFault (Nat × List Char) :=
  if text.isEmpty then .error .tooShort
  else
    let candidates :=
      match maxDigits with
      | none => text
      | some limit => text.take limit
    let (digits, _) := digitRun 10 candidates
    let value := ofDigits 10 digits
    if digits.isEmpty then .error .invalid
    else if value < Power.ofTwo 63 then .ok (value, text.drop digits.length)
    else .error .outOfRange

/-- A number of at most two digits within bounds, with blanks in front of it. -/
def readField (least greatest : Nat) (text : List Char) :
    Except TimestampFault (Nat × List Char) := do
  let (value, rest) ← readNumber (some 2) (trimStart text)
  if least ≤ value ∧ value ≤ greatest then .ok (value, rest) else .error .outOfRange

/-- A year: four digits, or a sign and any number of digits. -/
def readYear (text : List Char) :
    Except TimestampFault (Int × List Char) := do
  let (year, rest) ←
    match trimStart text with
    | '-' :: digits => (readNumber none digits).map fun (value, rest) => (-(value : Int), rest)
    | '+' :: digits => (readNumber none digits).map fun (value, rest) => ((value : Int), rest)
    | digits => (readNumber (some 4) digits).map fun (value, rest) => ((value : Int), rest)
  if -(Power.ofTwo 31 : Int) ≤ year ∧ year < Power.ofTwo 31 then .ok (year, rest)
  else .error .outOfRange

/-- A separator, with blanks in front of it. -/
def readSeparator (separator : Char) (text : List Char) : Except TimestampFault (List Char) :=
  match trimStart text with
  | [] => .error .tooShort
  | char :: rest => if char = separator then .ok rest else .error .invalid

/-- The decimal places behind a second, in nanoseconds. Places beyond the ninth
are dropped. -/
def readFraction (text : List Char) :
    Except TimestampFault (Nat × List Char) :=
  match text with
  | '.' :: rest => do
      let (value, behind) ← readNumber (some 9) rest
      let places := rest.length - behind.length
      .ok (value * Power.ofTen (9 - places), behind.dropWhile Char.isDigit)
  | _ => .ok (0, text)

/-- Two digits that have to stand in front of a text. -/
def readPair (text : List Char) :
    Except TimestampFault ((Nat × Nat) × List Char) :=
  match text with
  | first :: second :: rest =>
      match digitValue? 10 first, digitValue? 10 second with
      | some tens, some ones => .ok ((tens, ones), rest)
      | _, _ => .error .invalid
  | [char] => if char.utf8Size < 2 then .error .tooShort else .error .invalid
  | [] => .error .tooShort

/-- The offset from UTC in seconds: `Z`, `UTC`, or a sign, hours and minutes. -/
def readOffset (text : List Char) :
    Except TimestampFault (Int × List Char) :=
  match text with
  | [] => .error .tooShort
  | char :: rest =>
      if char.toLower = 'u' ∧ (rest.take 2).map Char.toLower = ['t', 'c'] then
        .ok (0, rest.drop 2)
      else if char.toLower = 'z' then .ok (0, rest)
      else if char ≠ '+' ∧ char ≠ '-' ∧ char ≠ '−' then .error .invalid
      else do
        let ((tenHours, hours), rest) ← readPair rest
        let rest := rest.dropWhile fun char => char == ':' || isBlank char
        let ((tenMinutes, minutes), rest) ← readPair rest
        if 5 < tenMinutes then .error .outOfRange
        else
          let offset : Int := ((tenHours * 10 + hours) * 60 + tenMinutes * 10 + minutes : Nat) * 60
          .ok (if char = '+' then offset else -offset, rest)

def isLeapYear (year : Int) : Bool :=
  year % 4 == 0 && (year % 100 != 0 || year % 400 == 0)

def daysInMonth (year : Int) (month : Nat) : Nat :=
  if month = 2 then (if isLeapYear year then 29 else 28)
  else if month = 4 ∨ month = 6 ∨ month = 9 ∨ month = 11 then 30
  else 31

/-- The days from the start of 1970 to a date. Years are counted from March, so
that the leap day is the last one, in eras of 400 years. -/
def daysOfDate (year : Int) (month day : Nat) : Int :=
  let shifted := if month ≤ 2 then year - 1 else year
  let era := shifted / 400
  let yearOfEra := shifted % 400
  let monthFromMarch := (month + 9) % 12
  let dayOfYear := (153 * monthFromMarch + 2) / 5 + day - 1
  let dayOfEra := yearOfEra * 365 + yearOfEra / 4 - yearOfEra / 100 + dayOfYear
  era * 146097 + dayOfEra - 719468

/-- The date that lies a number of days behind the start of 1970. -/
def dateOfDays (days : Int) : Int × Nat × Nat :=
  let shifted := days + 719468
  let era := shifted / 146097
  let dayOfEra := shifted % 146097
  let yearOfEra := (dayOfEra - dayOfEra / 1460 + dayOfEra / 36524 - dayOfEra / 146096) / 365
  let dayOfYear := (dayOfEra - (365 * yearOfEra + yearOfEra / 4 - yearOfEra / 100)).toNat
  let monthFromMarch := (5 * dayOfYear + 2) / 153
  let day := dayOfYear - (153 * monthFromMarch + 2) / 5 + 1
  let month := if monthFromMarch < 10 then monthFromMarch + 3 else monthFromMarch - 9
  let year := yearOfEra + era * 400
  (if month ≤ 2 then year + 1 else year, month, day)

/-- The years that dates can have. -/
def isRepresentableYear (year : Int) : Bool :=
  -262143 ≤ year && year ≤ 262142

/-- The separator between a date and a time. -/
def readDateEnd : List Char → Except TimestampFault (List Char)
  | [] => .error .tooShort
  | char :: rest =>
      if char = 'T' ∨ char = 't' ∨ char = ' ' then .ok rest else .error .invalid

/-- The timestamp that a text spells. The parts are read first, each within its
own bounds; then the date has to exist and the offset to be less than a day. -/
def parse (text : List Char) : Except TimestampFault Timestamp := do
  let (year, text) ← readYear text
  let text ← readSeparator '-' text
  let (month, text) ← readField 1 12 text
  let text ← readSeparator '-' text
  let (day, text) ← readField 1 31 text
  let text ← readDateEnd text
  let (hour, text) ← readField 0 23 text
  let text ← readSeparator ':' text
  let (minute, text) ← readField 0 59 text
  let text ← readSeparator ':' text
  let (second, text) ← readField 0 60 text
  let (fraction, text) ← readFraction text
  let (offset, text) ← readOffset (trimStart text)
  if !(trimStart text).isEmpty then .error .tooLong
  else if !isRepresentableYear year || decide (daysInMonth year month < day) then
    .error .outOfRange
  else if 86400 ≤ offset.natAbs then .error .outOfRange
  else
    let leap := if second = 60 then 1 else 0
    let clock : Int := ((hour * 60 + minute) * 60 + (second - leap) : Nat)
    let seconds := daysOfDate year month day * 86400 + clock - offset
    let (year, _, _) := dateOfDays (seconds / 86400)
    if isRepresentableYear year then .ok ⟨seconds, fraction + leap * 1000000000⟩
    else .error .impossible

/-- A number with at least `width` digits. -/
def padded (width number : Nat) : List Char :=
  let digits := decimal number
  List.replicate (width - digits.length) '0' ++ digits

/-- A year in four digits; years outside of them have a sign. -/
def printYear (year : Int) : List Char :=
  if 0 ≤ year ∧ year ≤ 9999 then padded 4 year.toNat
  else (if year < 0 then '-' else '+') :: padded 4 year.natAbs

def print (timestamp : Timestamp) : String :=
  let (year, month, day) := dateOfDays (timestamp.seconds / 86400)
  let clock := (timestamp.seconds % 86400).toNat
  let second := clock % 60 + timestamp.nanoseconds / 1000000000
  String.ofList <|
    printYear year ++ '-' :: padded 2 month ++ '-' :: padded 2 day ++
      'T' :: padded 2 (clock / 3600) ++ ':' :: padded 2 (clock / 60 % 60) ++
      ':' :: padded 2 second ++ ['Z']

end Timestamp

end GatewayAcl
