import GatewayAcl.Proofs.Json.StringTexts
import GatewayAcl.Proofs.Results
import GatewayAcl.Proofs.Text.Numerals

/-!
# Texts of numbers

What follows a numeral has no bearing on what it is read as, unless it goes on with a
digit, a point or the mark of a power.  Integers of 64 bits are read from their own texts.
A float need not be, since reading rounds twice.
-/

namespace GatewayAcl.Json

open Text

/-- A text goes on with nothing that could belong to a numeral. -/
structure EndsNumeral (text : List UInt8) : Prop where
  noDigit : ∀ byte ∈ text.head?, decimalDigit? byte = none
  noPoint : ∀ byte ∈ text.head?, isByte '.' byte = false
  noPower : ∀ byte ∈ text.head?, isPowerMark byte = false

theorem endsNumeral_cons {byte : UInt8} (noDigit : decimalDigit? byte = none)
    (noPoint : isByte '.' byte = false) (noPower : isPowerMark byte = false)
    (rest : List UInt8) : EndsNumeral (byte :: rest) where
  noDigit := by
    rintro _ ⟨⟩
    exact noDigit
  noPoint := by
    rintro _ ⟨⟩
    exact noPoint
  noPower := by
    rintro _ ⟨⟩
    exact noPower

theorem digitsInFront_append {rest : List UInt8} (ends : EndsNumeral rest) (text : List UInt8) :
    digitsInFront (text ++ rest) = ((digitsInFront text).1, (digitsInFront text).2 ++ rest) := by
  induction text with
  | nil =>
      cases rest with
      | nil => rfl
      | cons byte rest =>
          have noDigit := ends.noDigit byte rfl
          simp [digitsInFront, noDigit]
  | cons byte text ih =>
      rw [List.cons_append, digitsInFront, digitsInFront, ih]
      cases decimalDigit? byte <;> rfl

theorem scanDigits_append {rest text behind : List UInt8} {digits : List Nat}
    (ends : EndsNumeral rest) (scanned : scanDigits text = .ok (digits, behind)) :
    scanDigits (text ++ rest) = .ok (digits, behind ++ rest) := by
  rw [scanDigits] at scanned
  rw [scanDigits, digitsInFront_append ends]
  cases found : digitsInFront text with
  | mk inFront after =>
      rw [found] at scanned
      cases inFront with
      | nil => cases scanned
      | cons first others =>
          cases scanned
          rfl

theorem scanFraction_append {rest text behind : List UInt8} {fraction : Option (List Nat)}
    (ends : EndsNumeral rest) (scanned : scanFraction text = .ok (fraction, behind)) :
    scanFraction (text ++ rest) = .ok (fraction, behind ++ rest) := by
  cases text with
  | nil =>
      cases scanned
      cases rest with
      | nil => rfl
      | cons byte rest => exact if_neg (by simp [ends.noPoint byte rfl])
  | cons point text =>
      rw [scanFraction] at scanned
      rw [List.cons_append, scanFraction]
      split at scanned
      · next isPoint =>
          obtain ⟨⟨digits, after⟩, scannedDigits, same⟩ := except_bind_eq_ok_iff.mp scanned
          cases same
          rw [if_pos isPoint, scanDigits_append ends scannedDigits]
          rfl
      · next noPoint =>
          cases scanned
          exact if_neg noPoint

/-- A sign with digits behind it is seen whatever follows. -/
theorem powerSign_append {text : List UInt8} (nonempty : text ≠ []) (rest : List UInt8) :
    powerSign (text ++ rest) = ((powerSign text).1, (powerSign text).2 ++ rest) := by
  cases text with
  | nil => exact absurd rfl nonempty
  | cons sign text =>
      rw [List.cons_append, powerSign, powerSign]
      split
      · rfl
      · split <;> rfl

theorem scanPower_append {rest text behind : List UInt8} {power : Option (Bool × List Nat)}
    (ends : EndsNumeral rest) (scanned : scanPower text = .ok (power, behind)) :
    scanPower (text ++ rest) = .ok (power, behind ++ rest) := by
  cases text with
  | nil =>
      cases scanned
      cases rest with
      | nil => rfl
      | cons byte rest => exact if_neg (by simp [ends.noPower byte rfl])
  | cons mark text =>
      rw [scanPower] at scanned
      rw [List.cons_append, scanPower]
      split at scanned
      · next isMark =>
          obtain ⟨⟨digits, after⟩, scannedDigits, same⟩ := except_bind_eq_ok_iff.mp scanned
          cases same
          have nonempty : text ≠ [] := by
            intro isNil
            rw [isNil] at scannedDigits
            cases scannedDigits
          rw [if_pos isMark, powerSign_append nonempty, scanDigits_append ends scannedDigits]
          rfl
      · next noMark =>
          cases scanned
          exact if_neg noMark

theorem scanMagnitude_append {rest text behind : List UInt8} {negative : Bool} {numeral : Numeral}
    (ends : EndsNumeral rest) (scanned : scanMagnitude negative text = .ok (numeral, behind)) :
    scanMagnitude negative (text ++ rest) = .ok (numeral, behind ++ rest) := by
  rw [scanMagnitude] at scanned
  obtain ⟨⟨whole, afterWhole⟩, scannedWhole, scanned⟩ := except_bind_eq_ok_iff.mp scanned
  rw [scanMagnitude, scanDigits_append ends scannedWhole, except_bind_ok]
  simp only at scanned ⊢
  split at scanned
  · cases scanned
  · next noZero =>
      obtain ⟨⟨fraction, afterPoint⟩, scannedFraction, scanned⟩ := except_bind_eq_ok_iff.mp scanned
      obtain ⟨⟨power, afterPower⟩, scannedPower, same⟩ := except_bind_eq_ok_iff.mp scanned
      cases same
      rw [if_neg noZero, scanFraction_append ends scannedFraction, except_bind_ok]
      simp only [scanPower_append ends scannedPower, except_bind_ok]

theorem scanNumeral_append {rest text behind : List UInt8} {numeral : Numeral}
    (ends : EndsNumeral rest) (scanned : scanNumeral text = .ok (numeral, behind)) :
    scanNumeral (text ++ rest) = .ok (numeral, behind ++ rest) := by
  cases text with
  | nil => cases scanned
  | cons sign text =>
      rw [scanNumeral] at scanned
      rw [List.cons_append, scanNumeral]
      split at scanned
      · next isMinus => rw [if_pos isMinus, scanMagnitude_append ends scanned]
      · next noMinus => rw [if_neg noMinus, ← List.cons_append, scanMagnitude_append ends scanned]

theorem readNumber_eq_iff {text behind : List UInt8} {value : Number} :
    readNumber text = ⟨.number value, some behind⟩ ↔
      ∃ numeral, scanNumeral text = .ok (numeral, behind) ∧ numeral.number = .ok value := by
  rw [readNumber]
  cases scanned : scanNumeral text with
  | error document => simp
  | ok parts =>
      obtain ⟨numeral, after⟩ := parts
      cases isNumber : numeral.number with
      | error fault => simp [isNumber]
      | ok number => simp [isNumber, and_comm]

/-- What follows a number has no bearing on it. -/
theorem readNumber_append {rest text : List UInt8} {value : Number} (ends : EndsNumeral rest)
    (read : readNumber text = ⟨.number value, some []⟩) :
    readNumber (text ++ rest) = ⟨.number value, some rest⟩ := by
  obtain ⟨numeral, scanned, isNumber⟩ := readNumber_eq_iff.mp read
  exact readNumber_eq_iff.mpr ⟨numeral, scanNumeral_append ends scanned, isNumber⟩

/-- A byte that numbers begin with. -/
def BeginsNumber (byte : UInt8) : Prop :=
  isByte '-' byte = true ∨ (decimalDigit? byte).isSome = true

theorem BeginsNumber.range {byte : UInt8} (begins : BeginsNumber byte) :
    byte.toNat = 0x2d ∨ 0x30 ≤ byte.toNat ∧ byte.toNat ≤ 0x39 := by
  rcases begins with isMinus | isDigit
  · exact .inl (isByte_iff.mp isMinus)
  · rw [decimalDigit?] at isDigit
    split at isDigit
    · next inRange =>
        have ⟨above, below⟩ := (Bool.and_eq_true _ _).mp inRange
        exact .inr ⟨UInt8.le_iff_toNat_le.mp (of_decide_eq_true above),
          UInt8.le_iff_toNat_le.mp (of_decide_eq_true below)⟩
    · cases isDigit

theorem exists_begins_of_readNumber {text behind : List UInt8} {value : Number}
    (read : readNumber text = ⟨.number value, some behind⟩) :
    ∃ byte others, text = byte :: others ∧ BeginsNumber byte := by
  obtain ⟨numeral, scanned, _⟩ := readNumber_eq_iff.mp read
  cases text with
  | nil => cases scanned
  | cons byte others =>
      refine ⟨byte, others, rfl, ?_⟩
      rw [scanNumeral] at scanned
      split at scanned
      · next isMinus => exact .inl isMinus
      · cases isDigit : decimalDigit? byte with
        | none =>
            rw [scanMagnitude, scanDigits, digitsInFront, isDigit] at scanned
            cases scanned
        | some digit => exact .inr (by simp [isDigit])

/-- A number is read from its own text. -/
def Number.Legible (number : Number) : Prop :=
  readNumber (bytes number.print.toList) = ⟨.number number, some []⟩

theorem digitsInFront_digits {digits : List Nat} (below : ∀ digit ∈ digits, digit < 10) :
    digitsInFront (bytes (digits.map Nat.digitChar)) = (digits, []) := by
  induction digits with
  | nil => rfl
  | cons digit digits ih =>
      have ⟨digitBelow, digitsBelow⟩ := List.forall_mem_cons.mp below
      have known : ∀ digit < 10,
          String.utf8EncodeChar (Nat.digitChar digit) = [UInt8.ofNat (0x30 + digit)] ∧
            decimalDigit? (UInt8.ofNat (0x30 + digit)) = some digit := by
        decide
      have ⟨written, isDigit⟩ := known digit digitBelow
      rw [List.map_cons, bytes_cons, written, List.singleton_append, digitsInFront, isDigit,
        ih digitsBelow]

theorem hasLeadingZero_of_toDigits {number : Nat} {digits : List Nat}
    (written : Nat.toDigits 10 number = digits.map Nat.digitChar)
    (below : ∀ digit ∈ digits, digit < 10) : hasLeadingZero digits = false := by
  match digits with
  | [] => rfl
  | [_] => simp [hasLeadingZero]
  | 0 :: second :: others =>
      rcases Nat.eq_zero_or_pos number with zero | positive
      · rw [zero] at written
        cases written
      · have noZero := head?_toDigits_ne_zero (by decide : 1 < 10) (by decide) positive
        rw [written] at noZero
        exact absurd rfl noZero
  | (_ + 1) :: _ => simp [hasLeadingZero]

theorem exists_scanDigits (number : Nat) :
    ∃ digits, scanDigits (bytes (toString number).toList) = .ok (digits, []) ∧
      Numeral.ofDigits digits = number ∧ hasLeadingZero digits = false := by
  obtain ⟨digits, written, below, isNumber⟩ :=
    exists_digits_eq_toDigits (by decide : 1 < 10) number
  refine ⟨digits, ?_, isNumber, hasLeadingZero_of_toDigits written below⟩
  rw [Pointer.toList_toString, written, scanDigits, digitsInFront_digits below]
  cases digits with
  | nil => exact absurd written Nat.toDigits_ne_nil
  | cons first others => rfl

theorem exists_scanMagnitude (negative : Bool) (number : Nat) :
    ∃ digits, scanMagnitude negative (bytes (toString number).toList) =
        .ok (⟨negative, digits, [], none, true⟩, []) ∧ Numeral.ofDigits digits = number := by
  obtain ⟨digits, scanned, isNumber, noZero⟩ := exists_scanDigits number
  refine ⟨digits, ?_, isNumber⟩
  rw [scanMagnitude, scanned, except_bind_ok]
  simp only [noZero, Bool.false_eq_true, if_false]
  rfl

/-- A numeral without a sign is not mistaken for one with a sign. -/
theorem scanNumeral_of_scanMagnitude {text : List UInt8} {found : Numeral × List UInt8}
    (scanned : scanMagnitude false text = .ok found) : scanNumeral text = .ok found := by
  cases text with
  | nil => exact scanned
  | cons byte text =>
      have noMinus : ¬ isByte '-' byte = true := by
        intro isMinus
        have isByte : byte = 0x2d := UInt8.toNat_inj.mp (isByte_iff.mp isMinus)
        rw [isByte] at scanned
        cases scanned
      rw [scanNumeral, if_neg noMinus, scanned]

theorem toList_print_negSucc (number : Nat) :
    (Number.integer (.negSucc number)).print.toList = '-' :: (toString (number + 1)).toList := by
  have printed : (Number.integer (.negSucc number)).print = "-" ++ toString (number + 1) := rfl
  rw [printed, String.toList_append]
  rfl

/-- Integers of 64 bits are read from their own texts. -/
theorem legible_integer {value : Int} (above : -(Power.ofTwo 63 : Int) ≤ value)
    (below : value < Power.ofTwo 64) : (Number.integer value).Legible := by
  apply readNumber_eq_iff.mpr
  cases value with
  | ofNat number =>
      obtain ⟨digits, scanned, isNumber⟩ := exists_scanMagnitude false number
      refine ⟨⟨false, digits, [], none, true⟩, scanNumeral_of_scanMagnitude scanned, ?_⟩
      have inRange : number < Power.ofTwo 64 := Int.ofNat_lt.mp below
      simp [Numeral.number, isNumber, inRange]
  | negSucc number =>
      obtain ⟨digits, scanned, isNumber⟩ := exists_scanMagnitude true (number + 1)
      refine ⟨⟨true, digits, [], none, true⟩, ?_, ?_⟩
      · rw [toList_print_negSucc, bytes_cons]
        exact scanned
      · have inRange : number + 1 ≤ Power.ofTwo 63 := by omega
        have negated : Int.negSucc number = -((number + 1 : Nat) : Int) := rfl
        simp [Numeral.number, isNumber, inRange, negated]

end GatewayAcl.Json
