import GatewayAcl.Json.Pointer
import GatewayAcl.Text.Numeral
import Mathlib.Data.List.Forall2
import Mathlib.Data.List.Induction

/-!
# Reading numerals

The numeral in front of a text is read, whatever stands behind its last digit, as long as
it is no further digit.  A number that was written in a radix is read back as that number.
The same holds for the positions that pointers name.
-/

namespace GatewayAcl.Text

/-- A text does not go on with a digit of the radix. -/
def EndsDigits (radix : Nat) (text : List Char) : Prop :=
  ∀ char ∈ text.head?, digitValue? radix char = none

theorem endsDigits_nil (radix : Nat) : EndsDigits radix [] := by
  intro char member
  cases member

theorem endsDigits_cons {radix : Nat} {char : Char} (text : List Char)
    (noDigit : digitValue? radix char = none) : EndsDigits radix (char :: text) := by
  intro other member
  cases member
  exact noDigit

theorem digitValue?_digitChar {radix value : Nat} (below : value < radix)
    (known : value < 16) : digitValue? radix (Nat.digitChar value) = some value := by
  have found : ∀ digit < 16, digitValue? 16 (Nat.digitChar digit) = some digit := by decide
  have atSixteen := found value known
  simp only [digitValue?, Option.filter_eq_some_iff] at atSixteen ⊢
  exact ⟨atSixteen.1, by simpa using below⟩

theorem digitValue?_lt {radix value : Nat} {char : Char}
    (isDigit : digitValue? radix char = some value) : value < radix := by
  rw [digitValue?, Option.filter_eq_some_iff] at isDigit
  exact of_decide_eq_true isDigit.2

theorem digitValue?_mono {radix larger value : Nat} {char : Char} (le : radix ≤ larger)
    (isDigit : digitValue? radix char = some value) : digitValue? larger char = some value := by
  have below := digitValue?_lt isDigit
  rw [digitValue?, Option.filter_eq_some_iff] at isDigit ⊢
  exact ⟨isDigit.1, decide_eq_true (Nat.lt_of_lt_of_le below le)⟩

/-- Characters are the digits for values. -/
def AreDigits (radix : Nat) : List Char → List Nat → Prop :=
  List.Forall₂ fun char value => digitValue? radix char = some value

theorem AreDigits.below {radix : Nat} {digits : List Char} {values : List Nat}
    (areDigits : AreDigits radix digits values) : ∀ value ∈ values, value < radix := by
  induction areDigits with
  | nil => exact List.forall_mem_nil _
  | cons isDigit _ ih => exact List.forall_mem_cons.mpr ⟨digitValue?_lt isDigit, ih⟩

/-- Digits in front of a text that goes on with none are read in full. -/
theorem digitRun_append {radix : Nat} {digits rest : List Char} {values : List Nat}
    (areDigits : AreDigits radix digits values) (ends : EndsDigits radix rest) :
    digitRun radix (digits ++ rest) = (values, rest) := by
  induction areDigits with
  | nil =>
      cases rest with
      | nil => rfl
      | cons char rest =>
          have noDigit := ends char rfl
          simp [digitRun, noDigit]
  | cons isDigit _ ih => simp [digitRun, isDigit, ih]

/-- The digits that are read stand in front of the text, which goes on with none. -/
theorem digitRun_splits (radix : Nat) (text : List Char) :
    ∃ digits, text = digits ++ (digitRun radix text).2 ∧
      AreDigits radix digits (digitRun radix text).1 ∧
      EndsDigits radix (digitRun radix text).2 := by
  induction text with
  | nil => exact ⟨[], rfl, .nil, endsDigits_nil radix⟩
  | cons char text ih =>
      rw [digitRun]
      cases isDigit : digitValue? radix char with
      | none => exact ⟨[], rfl, .nil, endsDigits_cons text isDigit⟩
      | some value =>
          have ⟨digits, splits, areDigits, ends⟩ := ih
          exact ⟨char :: digits, congrArg (char :: ·) splits, .cons isDigit areDigits, ends⟩

/-- A text is a numeral of a number: one digit at least, and no more than `most`. -/
structure IsNumeral (radix most : Nat) (text : List Char) (number : Nat) : Prop where
  nonempty : text ≠ []
  short : text.length ≤ most
  spells : ∃ values, AreDigits radix text values ∧ ofDigits radix values = number

theorem readNumeral_eq_some_iff {radix most bound number : Nat} {text rest : List Char} :
    readNumeral radix most bound text = some (number, rest) ↔
      ∃ digits, text = digits ++ rest ∧ IsNumeral radix most digits number ∧ number < bound ∧
        EndsDigits radix rest := by
  constructor
  · intro read
    have ⟨digits, splits, areDigits, ends⟩ := digitRun_splits radix text
    have ⟨⟨nonempty, short, below⟩, isRead⟩ := Option.ite_none_right_eq_some.mp read
    cases isRead
    rw [← areDigits.length_eq] at nonempty short
    have isNumeral : IsNumeral radix most digits _ :=
      ⟨List.ne_nil_of_length_pos nonempty, short, _, areDigits, rfl⟩
    exact ⟨digits, splits, isNumeral, below, ends⟩
  · intro ⟨digits, splits, isNumeral, below, ends⟩
    have ⟨values, areDigits, isNumber⟩ := isNumeral.spells
    have positive := List.length_pos_iff.mpr isNumeral.nonempty
    rw [readNumeral, splits, digitRun_append areDigits ends]
    simp only [isNumber, ← areDigits.length_eq]
    rw [if_pos ⟨positive, isNumeral.short, below⟩]

theorem ofDigits_append_singleton (radix : Nat) (digits : List Nat) (digit : Nat) :
    ofDigits radix (digits ++ [digit]) = ofDigits radix digits * radix + digit := by
  simp [ofDigits]

theorem ofDigits_lt {radix : Nat} {digits : List Nat} (below : ∀ digit ∈ digits, digit < radix) :
    ofDigits radix digits < radix.pow digits.length := by
  induction digits using List.reverseRecOn with
  | nil => exact Nat.one_pos
  | append_singleton digits digit ih =>
      rw [List.forall_mem_append] at below
      have inFront := ih below.1
      have last := below.2 digit List.mem_cons_self
      rw [ofDigits_append_singleton, List.length_append, List.length_singleton]
      calc ofDigits radix digits * radix + digit
          < ofDigits radix digits * radix + radix := Nat.add_lt_add_left last _
        _ = (ofDigits radix digits + 1) * radix := (Nat.succ_mul _ _).symm
        _ ≤ radix.pow digits.length * radix := Nat.mul_le_mul_right radix inFront

theorem IsNumeral.lt {radix most number : Nat} {text : List Char} (positive : 0 < radix)
    (isNumeral : IsNumeral radix most text number) : number < radix.pow most := by
  have ⟨values, areDigits, isNumber⟩ := isNumeral.spells
  calc number = ofDigits radix values := isNumber.symm
    _ < radix.pow values.length := ofDigits_lt areDigits.below
    _ ≤ radix.pow most :=
      Nat.pow_le_pow_right positive (areDigits.length_eq ▸ isNumeral.short)

/-- A numeral consists of digits below its radix that stand for the number. -/
theorem exists_digits_eq_toDigits {radix : Nat} (large : 1 < radix) (number : Nat) :
    ∃ values : List Nat, Nat.toDigits radix number = values.map Nat.digitChar ∧
      (∀ value ∈ values, value < radix) ∧ ofDigits radix values = number := by
  induction number using Nat.strongRecOn with
  | ind number ih =>
      rw [Nat.toDigits_eq_if large]
      split
      · next small => exact ⟨[number], rfl, by simpa using small, by simp [ofDigits]⟩
      · next notSmall =>
          have positive : 0 < number := by omega
          obtain ⟨values, written, below, value⟩ :=
            ih (number / radix) (Nat.div_lt_self positive large)
          refine ⟨values ++ [number % radix], by simp [written], ?_, ?_⟩
          · intro digit member
            rcases List.mem_append.mp member with inFront | last
            · exact below digit inFront
            · rw [List.mem_singleton.mp last]
              exact Nat.mod_lt _ (by omega)
          · rw [ofDigits_append_singleton, value, Nat.mul_comm]
            exact Nat.div_add_mod number radix

theorem areDigits_map_digitChar {radix : Nat} (small : radix ≤ 16) {values : List Nat}
    (below : ∀ value ∈ values, value < radix) :
    AreDigits radix (values.map Nat.digitChar) values := by
  rw [AreDigits, List.forall₂_map_left_iff, List.forall₂_same]
  intro value member
  have valueBelow := below value member
  exact digitValue?_digitChar valueBelow (Nat.lt_of_lt_of_le valueBelow small)

theorem isNumeral_toDigits {radix most number : Nat} (large : 1 < radix) (small : radix ≤ 16)
    (someDigits : 0 < most) (short : number < radix.pow most) :
    IsNumeral radix most (Nat.toDigits radix number) number := by
  have ⟨values, written, below, isNumber⟩ := exists_digits_eq_toDigits large number
  refine ⟨Nat.toDigits_ne_nil, ?_, values, ?_, isNumber⟩
  · exact (Nat.length_toDigits_le_iff large someDigits).mpr short
  · rw [written]
    exact areDigits_map_digitChar small below

theorem readNumeral_eq_none {radix : Nat} (maxDigits bound : Nat) {text : List Char}
    (ends : EndsDigits radix text) : readNumeral radix maxDigits bound text = none := by
  cases text with
  | nil => simp [readNumeral, digitRun]
  | cons char text =>
      have noDigit := ends char rfl
      simp [readNumeral, digitRun, noDigit]

theorem toDigits_eq_cons {radix : Nat} (large : 1 < radix) (number : Nat) :
    ∃ value < radix, ∃ others,
      Nat.toDigits radix number = Nat.digitChar value :: others := by
  obtain ⟨values, written, below, _⟩ := exists_digits_eq_toDigits large number
  cases values with
  | nil => exact absurd written Nat.toDigits_ne_nil
  | cons value values => exact ⟨value, below value List.mem_cons_self, _, written⟩

/-- Only zero is written with a zero in front. -/
theorem head?_toDigits_ne_zero {radix number : Nat} (large : 1 < radix) (small : radix ≤ 16)
    (positive : 0 < number) : (Nat.toDigits radix number).head? ≠ some '0' := by
  induction number using Nat.strongRecOn with
  | ind number ih =>
      rw [Nat.toDigits_eq_if large]
      split
      · next digit =>
          have distinct : ∀ value < 16, 0 < value → Nat.digitChar value ≠ '0' := by decide
          intro equal
          exact distinct number (by omega) positive (by simpa using equal)
      · next several =>
          have quotientPositive : 0 < number / radix := Nat.div_pos (by omega) (by omega)
          have inFront := ih (number / radix) (Nat.div_lt_self positive large) quotientPositive
          obtain ⟨value, _, others, written⟩ := toDigits_eq_cons large (number / radix)
          rw [written] at inFront ⊢
          exact inFront

end GatewayAcl.Text

namespace GatewayAcl.Pointer

open Text

theorem toList_toString (position : Nat) :
    (toString position).toList = Nat.toDigits 10 position := by
  rw [Nat.toString_eq_repr, Nat.toList_repr]

@[simp] theorem position?_toString (position : Nat) :
    position? (toString position) = some position := by
  have written := toList_toString position
  rcases Nat.eq_zero_or_pos position with zero | positive
  · rw [zero]
    decide
  · obtain ⟨values, digits, below, value⟩ :=
      exists_digits_eq_toDigits (by decide : 1 < 10) position
    have noZero := head?_toDigits_ne_zero (by decide : 1 < 10) (by decide) positive
    have run := digitRun_append (areDigits_map_digitChar (by decide) below) (endsDigits_nil 10)
    rw [List.append_nil, ← digits] at run
    unfold position?
    rw [written]
    split
    · next lone => simp [lone] at noZero
    · next padded => simp [padded] at noZero
    · rw [run]
      cases values with
      | nil => exact absurd digits Nat.toDigits_ne_nil
      | cons first others => exact congrArg some value

/-- A step in which no character has a meaning of its own is written as it is. -/
theorem escapeStep_of_plain {step : String}
    (plain : ∀ char ∈ step.toList, char ≠ '~' ∧ char ≠ '/') : escapeStep step = step.toList := by
  rw [escapeStep]
  generalize step.toList = text at plain
  induction text with
  | nil => rfl
  | cons char rest ih =>
      have ⟨⟨noTilde, noSlash⟩, plainRest⟩ := List.forall_mem_cons.mp plain
      simp [noTilde, noSlash, ih plainRest]

theorem escapeStep_toString (position : Nat) :
    escapeStep (toString position) = (toString position).toList := by
  have noMark : ∀ value < 10, Nat.digitChar value ≠ '~' ∧ Nat.digitChar value ≠ '/' := by decide
  have ⟨values, written, below, _⟩ := exists_digits_eq_toDigits (by decide : 1 < 10) position
  apply escapeStep_of_plain
  intro char member
  rw [toList_toString, written] at member
  have ⟨value, isDigit, isChar⟩ := List.mem_map.mp member
  exact isChar ▸ noMark value (below value isDigit)

end GatewayAcl.Pointer
