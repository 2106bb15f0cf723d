import GatewayAcl.Net.Network
import GatewayAcl.Proofs.Net.WrittenAddresses

/-!
# The spelling of networks

An address, a slash and the length in decimal spell a network.  The network of a text is
the one that the text spells in this way, and the written form of a network spells it.
-/

namespace GatewayAcl.Net

open Text

/-- A text spells a network.  The length has at most as many digits as the width of its
family. -/
inductive Network.Spelled : List Char → Network → Prop where
  | v4 {address digits : List Char} {bits : BitVec 32} {length : Fin 33} :
      Spelling.lenient.V4 address bits → IsNumeral 10 2 digits length →
        Spelled (address ++ '/' :: digits) (.v4 bits length)
  | v6 {address digits : List Char} {bits : BitVec 128} {length : Fin 129} :
      Spelling.lenient.V6 address bits → IsNumeral 10 3 digits length →
        Spelled (address ++ '/' :: digits) (.v6 bits length)

namespace Network

variable {text rest : List Char} {network : Network}

theorem readLength_eq_some_iff {most bound length : Nat} :
    readLength most bound text = some (length, rest) ↔
      ∃ digits, text = '/' :: (digits ++ rest) ∧ IsNumeral 10 most digits length ∧
        length < bound ∧ EndsDigits 10 rest := by
  rw [readLength, Option.bind_eq_bind, Option.bind_eq_some_iff]
  simp only [afterSeparator_eq_some_iff, readNumeral_eq_some_iff]
  constructor
  · intro ⟨behind, isLed, digits, splits, found⟩
    exact ⟨digits, splits ▸ isLed, found⟩
  · intro ⟨digits, isLed, found⟩
    exact ⟨digits ++ rest, isLed, digits, rfl, found⟩

theorem readLength_complete {most bound length : Nat} {digits : List Char}
    (isNumeral : IsNumeral 10 most digits length) (below : length < bound) :
    readLength most bound ('/' :: digits) = some (length, []) := by
  refine readLength_eq_some_iff.mpr ⟨digits, ?_, isNumeral, below, endsDigits_nil 10⟩
  rw [List.append_nil]

theorem endsGroups_slash (digits : List Char) : EndsGroups ('/' :: digits) where
  digits := endsDigits_cons _ (by decide)
  noDot := by simp [NoDot]
  behindColon := by
    intro behind equal
    cases equal

theorem readV4Network_sound (read : readV4Network text = some (network, [])) :
    Spelled text network := by
  have ⟨⟨bits, behind⟩, readAddress, readBehind⟩ := Option.bind_eq_some_iff.mp read
  have ⟨⟨length, left⟩, readDigits, isNetwork⟩ := Option.bind_eq_some_iff.mp readBehind
  cases isNetwork
  have ⟨address, splits, spelled, _⟩ := readV4_eq_some_iff.mp readAddress
  have ⟨digits, isBehind, isNumeral, below, _⟩ := readLength_eq_some_iff.mp readDigits
  have same : (Fin.ofNat 33 length).val = length := Nat.mod_eq_of_lt below
  rw [List.append_nil] at isBehind
  rw [splits, isBehind]
  exact .v4 spelled (same.symm ▸ isNumeral)

theorem readV6Network_sound (read : readV6Network text = some (network, [])) :
    Spelled text network := by
  have ⟨⟨bits, behind⟩, readAddress, readBehind⟩ := Option.bind_eq_some_iff.mp read
  have ⟨⟨length, left⟩, readDigits, isNetwork⟩ := Option.bind_eq_some_iff.mp readBehind
  cases isNetwork
  have ⟨address, splits, spelled⟩ := readV6_sound readAddress
  have ⟨digits, isBehind, isNumeral, below, _⟩ := readLength_eq_some_iff.mp readDigits
  have same : (Fin.ofNat 129 length).val = length := Nat.mod_eq_of_lt below
  rw [List.append_nil] at isBehind
  rw [splits, isBehind]
  exact .v6 spelled (same.symm ▸ isNumeral)

theorem readNetwork_complete (spelled : Spelled text network) :
    readNetwork text = some (network, []) := by
  cases spelled with
  | @v4 address digits bits length spelled isNumeral =>
      have readAddress := readV4_eq_some_iff.mpr
        ⟨address, rfl, spelled, endsDigits_cons digits (by decide : digitValue? 10 '/' = none)⟩
      have readDigits := readLength_complete isNumeral length.isLt
      simp [readNetwork, readV4Network, readAddress, readDigits]
  | @v6 address digits bits length spelled isNumeral =>
      have noV4 := readV4_eq_none_of_v6 spelled ('/' :: digits)
      have readAddress := readV6_complete spelled (endsGroups_slash digits)
      have readDigits := readLength_complete isNumeral length.isLt
      simp [readNetwork, readV4Network, noV4, readV6Network, readAddress, readDigits]

theorem ofChars?_eq_some_iff : ofChars? text = some network ↔ Spelled text network := by
  rw [ofChars?, whole?_eq_some_iff]
  constructor
  · intro read
    rw [readNetwork] at read
    cases isV4 : readV4Network text with
    | none =>
        rw [isV4] at read
        exact readV6Network_sound read
    | some result =>
        rw [isV4] at read
        cases read
        exact readV4Network_sound isV4
  · exact readNetwork_complete

theorem parse?_eq_some_iff {text : String} :
    parse? text = some network ↔ Spelled text.toList network :=
  ofChars?_eq_some_iff

theorem spelled_written (network : Network) : Spelled network.written network := by
  cases network with
  | v4 bits length =>
      have short : length.val < Nat.pow 10 2 := Nat.lt_trans length.isLt (by decide)
      exact .v4 (v4_printOctets .lenient bits)
        (isNumeral_toDigits (by decide) (by decide) (by decide) short)
  | v6 bits length =>
      have short : length.val < Nat.pow 10 3 := Nat.lt_trans length.isLt (by decide)
      exact .v6 (v6_printV6 .lenient bits)
        (isNumeral_toDigits (by decide) (by decide) (by decide) short)

@[simp] theorem toList_print (network : Network) : network.print.toList = network.written :=
  String.toList_ofList

@[simp] theorem parse?_print (network : Network) : parse? network.print = some network := by
  rw [parse?_eq_some_iff, toList_print]
  exact network.spelled_written

end Network

end GatewayAcl.Net
