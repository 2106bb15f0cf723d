import GatewayAcl.Net.AddressPrinter
import GatewayAcl.Proofs.Net.SpelledAddresses

/-!
# Written addresses

The written form of an address spells that address in every spelling, so it is read back.
Version 6 addresses are groups between colons, where a gap stands for a run of zeros, or a
mark with a version 4 address behind it.
-/

namespace GatewayAcl.Net

open Text

/-! ## Words in a radix -/

theorem lt_of_mem_words {radix count number word : Nat} (positive : 0 < radix)
    (member : word ∈ words radix count number) : word < radix := by
  induction count generalizing number with
  | zero => cases member
  | succ count ih =>
      rcases List.mem_append.mp member with inFront | last
      · exact ih inFront
      · rw [List.mem_singleton.mp last]
        exact Nat.mod_lt _ positive

/-- The words of a number stand for its remainder by the range of the words. -/
theorem ofDigits_words (radix count number : Nat) :
    ofDigits radix (words radix count number) = number % radix.pow count := by
  induction count generalizing number with
  | zero => simp [words, ofDigits, Nat.mod_one]
  | succ count ih =>
      have power : radix.pow (count + 1) = radix * radix.pow count := Nat.pow_succ'
      rw [words, ofDigits_append_singleton, ih, power, Nat.mod_mul]
      rw [Nat.mul_comm, Nat.add_comm]

theorem ofDigits_octets (bits : BitVec 32) : ofDigits 256 (octets bits) = bits.toNat := by
  rw [octets, ofDigits_words]
  exact Nat.mod_eq_of_lt bits.isLt

theorem ofDigits_groups (bits : BitVec 128) : ofDigits 65536 (groups bits) = bits.toNat := by
  rw [groups, ofDigits_words]
  exact Nat.mod_eq_of_lt bits.isLt

/-! ## Version 4 -/

variable (spelling : Spelling)

/-- No octet is written with zeros in front of it. -/
theorem isOctet_decimal {octet : Nat} (below : octet < 256) :
    spelling.IsOctet (decimal octet) octet where
  isNumeral := isNumeral_toDigits (by decide) (by decide) (by decide)
    (Nat.lt_trans below (by decide))
  below := below
  plain _ isZero := by
    have noZero := fun positive =>
      @head?_toDigits_ne_zero 10 octet (by decide) (by decide) positive isZero
    cases Nat.eq_zero_of_not_pos noZero
    rfl

theorem octets_joined {octets : List Nat} (nonempty : octets ≠ [])
    (below : ∀ octet ∈ octets, octet < 256) :
    spelling.Octets (joined ['.'] (octets.map decimal)) octets := by
  induction octets with
  | nil => exact absurd rfl nonempty
  | cons octet octets ih =>
      have ⟨octetBelow, othersBelow⟩ := List.forall_mem_cons.mp below
      cases octets with
      | nil => exact .last (isOctet_decimal spelling octetBelow)
      | cons other octets =>
          have spelled := ih (List.cons_ne_nil other octets) othersBelow
          have split : joined ['.'] ((octet :: other :: octets).map decimal) =
              decimal octet ++ '.' :: joined ['.'] ((other :: octets).map decimal) := by
            simp [joined]
          rw [split]
          exact .cons (isOctet_decimal spelling octetBelow) spelled

theorem octets_printOctets (bits : BitVec 32) :
    spelling.Octets (printOctets bits) (octets bits) :=
  octets_joined spelling (List.ne_nil_of_length_pos (by simp [octets]))
    fun _ member => lt_of_mem_words (by decide) member

theorem v4_printOctets (bits : BitVec 32) : spelling.V4 (printOctets bits) bits := by
  refine ⟨octets bits, octets_printOctets spelling bits, length_words 256 4 bits.toNat, ?_⟩
  rw [ofDigits_octets, BitVec.ofNat_toNat, BitVec.setWidth_eq]

/-! ## Version 6 -/

theorem isNumeral_hexadecimal {group : Nat} (below : group < 65536) :
    IsNumeral 16 4 (hexadecimal group) group :=
  isNumeral_toDigits (by decide) (by decide) (by decide) below

theorem groups_printGroups {groups : List Nat} (nonempty : groups ≠ [])
    (below : ∀ group ∈ groups, group < 65536) :
    spelling.Groups false (printGroups groups) groups := by
  induction groups with
  | nil => exact absurd rfl nonempty
  | cons group groups ih =>
      have ⟨groupBelow, othersBelow⟩ := List.forall_mem_cons.mp below
      cases groups with
      | nil => exact .last (isNumeral_hexadecimal groupBelow)
      | cons other groups =>
          have spelled := ih (List.cons_ne_nil other groups) othersBelow
          have split : printGroups (group :: other :: groups) =
              hexadecimal group ++ ':' :: printGroups (other :: groups) := by
            simp [printGroups, joined]
          rw [split]
          exact .cons (isNumeral_hexadecimal groupBelow) spelled

theorem side_printGroups {groups : List Nat} (below : ∀ group ∈ groups, group < 65536) :
    spelling.Side false (printGroups groups) groups := by
  cases groups with
  | nil => exact .nothing
  | cons group groups =>
      exact .groups (groups_printGroups spelling (List.cons_ne_nil group groups) below)

theorem splits_takeWhile_zero (groups : List Nat) :
    groups = List.replicate (groups.takeWhile (· == 0)).length 0 ++
      groups.drop (groups.takeWhile (· == 0)).length := by
  induction groups with
  | nil => rfl
  | cons group groups ih =>
      by_cases zero : group = 0
      · subst zero
        simpa [List.replicate_succ] using ih
      · simp [zero]

/-- The longest run of zeros consists of zeros that stand in the list. -/
theorem longestZeroRun_splits (start : Nat) (groups : List Nat) :
    start ≤ (longestZeroRun start groups).1 ∧
      groups = groups.take ((longestZeroRun start groups).1 - start) ++
        List.replicate (longestZeroRun start groups).2 0 ++
        groups.drop ((longestZeroRun start groups).1 - start +
          (longestZeroRun start groups).2) := by
  induction groups generalizing start with
  | nil => simp [longestZeroRun]
  | cons group groups ih =>
      obtain ⟨later, splits⟩ := ih (start + 1)
      simp only [longestZeroRun]
      split
      · refine ⟨by omega, ?_⟩
        have shift : (longestZeroRun (start + 1) groups).1 - start =
            (longestZeroRun (start + 1) groups).1 - (start + 1) + 1 := by omega
        rw [shift, List.take_succ_cons, Nat.add_right_comm, List.drop_succ_cons]
        rw [List.cons_append, List.cons_append, ← splits]
      · refine ⟨Nat.le_refl start, ?_⟩
        rw [Nat.sub_self, Nat.zero_add, List.take_zero, List.nil_append]
        exact splits_takeWhile_zero (group :: groups)

theorem v6Groups_gap {front back : List Nat} {zeros : Nat} (several : 2 ≤ zeros)
    (eight : front.length + zeros + back.length = 8)
    (frontBelow : ∀ group ∈ front, group < 65536)
    (backBelow : ∀ group ∈ back, group < 65536) :
    spelling.V6Groups (printGroups front ++ [':', ':'] ++ printGroups back)
      (front ++ List.replicate zeros 0 ++ back) := by
  have fits : front.length + back.length ≤ if spelling.emptyGap then 8 else 7 := by
    split <;> omega
  have spelled := Spelling.V6Groups.gap (side_printGroups spelling frontBelow)
    (side_printGroups spelling backBelow) (by omega) fits
  have gap : 8 - front.length - back.length = zeros := by omega
  rw [gap] at spelled
  rwa [List.append_assoc]

theorem v6Groups_printCompressed {groups : List Nat} (eight : groups.length = 8)
    (below : ∀ group ∈ groups, group < 65536) :
    spelling.V6Groups (printCompressed groups) groups := by
  obtain ⟨_, splits⟩ := longestZeroRun_splits 0 groups
  simp only [Nat.sub_zero] at splits
  simp only [printCompressed]
  split
  · next several =>
      have lengths := congrArg List.length splits
      simp only [List.length_append, List.length_replicate, eight] at lengths
      have frontBelow : ∀ group ∈ groups.take (longestZeroRun 0 groups).1, group < 65536 :=
        fun group member => below group (List.mem_of_mem_take member)
      have backBelow : ∀ group ∈ groups.drop ((longestZeroRun 0 groups).1 +
          (longestZeroRun 0 groups).2), group < 65536 :=
        fun group member => below group (List.mem_of_mem_drop member)
      have spelled := v6Groups_gap spelling several lengths.symm frontBelow backBelow
      rwa [← splits] at spelled
  · have nonempty : groups ≠ [] := List.ne_nil_of_length_pos (by omega)
    exact .full (groups_printGroups spelling nonempty below) eight

theorem v6Groups_mapped (bits : BitVec 32) :
    spelling.V6Groups ("::ffff:".toList ++ printOctets bits)
      (List.replicate 5 0 ++ 0xffff :: words 65536 2 bits.toNat) := by
  have address := Spelling.Groups.dotted (octets_printOctets spelling bits)
    (length_words 256 4 bits.toNat)
  rw [ofDigits_octets] at address
  have back := Spelling.Groups.cons (isNumeral_hexadecimal (by decide : 0xffff < 65536)) address
  have fits : (0xffff :: words 65536 2 bits.toNat).length ≤
      if spelling.emptyGap then 8 else 7 := by
    rw [List.length_cons, length_words]
    split <;> decide
  have mark : "::ffff:".toList ++ printOctets bits =
      [] ++ ':' :: ':' :: (hexadecimal 0xffff ++ ':' :: printOctets bits) := by
    have letters : "::ffff:".toList = ':' :: ':' :: (hexadecimal 0xffff ++ [':']) := by decide
    simp [letters]
  rw [mark]
  exact .gap .nothing (.groups back) (by decide) (Nat.zero_add _ ▸ fits)

/-- The groups of an address behind the mapping mark. -/
theorem ofNat_ofDigits_mapped {bits : BitVec 128} (mark : bits >>> 32 = 0xffff#128) :
    BitVec.ofNat 128 (ofDigits 65536
        (List.replicate 5 0 ++ 0xffff :: words 65536 2 (bits.setWidth 32).toNat)) = bits := by
  have high : bits.toNat / 2 ^ 32 = 0xffff := by
    have equal := congrArg BitVec.toNat mark
    simpa [BitVec.toNat_ushiftRight, Nat.shiftRight_eq_div_pow] using equal
  have low : (bits.setWidth 32).toNat = bits.toNat % 2 ^ 32 := BitVec.toNat_setWidth ..
  apply BitVec.eq_of_toNat_eq
  rw [low, BitVec.toNat_ofNat]
  simp only [words, ofDigits, List.replicate, List.nil_append, List.cons_append,
    List.foldl_cons, List.foldl_nil]
  omega

theorem v6_printV6 (bits : BitVec 128) : spelling.V6 (printV6 bits) bits := by
  by_cases mark : bits >>> 32 = 0xffff#128
  · have written : printV6 bits = "::ffff:".toList ++ printOctets (bits.setWidth 32) := by
      simp [printV6, mapped?, mark]
    rw [written]
    exact ⟨_, v6Groups_mapped spelling (bits.setWidth 32), (ofNat_ofDigits_mapped mark).symm⟩
  · have written : printV6 bits = printCompressed (groups bits) := by
      simp [printV6, mapped?, mark]
    have below : ∀ group ∈ groups bits, group < 65536 := fun group member =>
      lt_of_mem_words (by decide) member
    rw [written]
    refine ⟨_, v6Groups_printCompressed spelling (length_words _ _ _) below, ?_⟩
    rw [ofDigits_groups, BitVec.ofNat_toNat, BitVec.setWidth_eq]

theorem Address.spells_written (address : Address) : spelling.Spells address.written address := by
  cases address with
  | v4 bits => exact .v4 (v4_printOctets spelling bits)
  | v6 bits => exact .v6 (v6_printV6 spelling bits)

@[simp] theorem Address.parse?_print (address : Address) :
    Address.parse? spelling address.print = some address := by
  rw [Address.parse?_eq_some_iff, Address.print, String.toList_ofList]
  exact address.spells_written spelling

end GatewayAcl.Net
