import GatewayAcl.Proofs.Net.SpelledNetworks

/-!
# Canonical texts

Of the texts that spell a network one is canonical.  Which one is said here without a printer:
octets are decimal, groups are hexadecimal, neither have zeros in front of them, `::` stands for
the first of the longest runs of two or more zeros, and only a mapped version 4 address is shown
in octets.  The printer writes this text.  It is the only one that does not change when it is
read and written again.
-/

namespace GatewayAcl.Net

open Text

/-! ## The gap -/

/-- The first of the longest runs of zeros in a list, with what stands in front of it and behind
it.  There are two zeros at least. -/
structure FirstLongestZeros (groups front back : List Nat) (zeros : Nat) : Prop where
  splits : groups = front ++ List.replicate zeros 0 ++ back
  several : 2 ≤ zeros
  first : ∀ before run after, groups = before ++ List.replicate run 0 ++ after →
    run < zeros ∨ run = zeros ∧ front.length ≤ before.length

/-- Groups are written in hexadecimal with colons between them, and with a gap for the first of
the longest runs of several zeros, if there are any. -/
inductive CanonicalGroups : List Char → List Nat → Prop where
  | full {groups : List Nat} : (∀ before after, groups ≠ before ++ [0, 0] ++ after) →
      CanonicalGroups (joined [':'] (groups.map hexadecimal)) groups
  | gap {groups front back : List Nat} {zeros : Nat} :
      FirstLongestZeros groups front back zeros →
        CanonicalGroups (joined [':'] (front.map hexadecimal) ++ [':', ':'] ++
          joined [':'] (back.map hexadecimal)) groups

section

variable {groups front back : List Nat} {zeros : Nat}

theorem FirstLongestZeros.unique {front' back' : List Nat} {zeros' : Nat}
    (isFirst : FirstLongestZeros groups front back zeros)
    (isFirst' : FirstLongestZeros groups front' back' zeros') : front = front' ∧ back = back' := by
  have one := isFirst.first _ _ _ isFirst'.splits
  have other := isFirst'.first _ _ _ isFirst.splits
  have sameZeros : zeros = zeros' := by omega
  have sameLength : front.length = front'.length := by omega
  subst sameZeros
  have splits := isFirst.splits.symm.trans isFirst'.splits
  rw [List.append_assoc, List.append_assoc] at splits
  have ⟨sameFront, sameRest⟩ := List.append_inj splits sameLength
  exact ⟨sameFront, List.append_cancel_left sameRest⟩

theorem le_length_takeWhile_zero {run : Nat} {after : List Nat}
    (split : groups = List.replicate run 0 ++ after) :
    run ≤ (groups.takeWhile (· == 0)).length := by
  induction run generalizing groups with
  | zero => exact Nat.zero_le _
  | succ run ih =>
      rw [split, List.replicate_succ, List.cons_append, List.takeWhile_cons_of_pos (by rfl)]
      exact Nat.succ_le_succ (ih rfl)

/-- No run of zeros is longer than the one that is found, and none of its length begins in front
of it. -/
theorem longestZeroRun_first (start : Nat) {before after : List Nat} {run : Nat}
    (split : groups = before ++ List.replicate run 0 ++ after) :
    run < (longestZeroRun start groups).2 ∨ run = (longestZeroRun start groups).2 ∧
      (longestZeroRun start groups).1 ≤ start + before.length := by
  induction groups generalizing start before with
  | nil =>
      have ⟨inFront, _⟩ := List.append_eq_nil_iff.mp split.symm
      have ⟨_, noRun⟩ := List.append_eq_nil_iff.mp inFront
      have noZeros : run = 0 := by simpa using noRun
      exact .inr ⟨noZeros, Nat.le_add_right start _⟩
  | cons group groups ih =>
      simp only [longestZeroRun]
      cases before with
      | nil =>
          -- The run stands at the front, where the zeros are counted.
          have atFront := le_length_takeWhile_zero (split : _ = List.replicate run 0 ++ after)
          split <;> simp only [List.length_nil] <;> omega
      | cons head before =>
          have inRest := ih (start + 1) (List.cons.inj split).2
          rw [List.length_cons]
          split <;> omega

/-- The run that is found is the first longest one, if it is long enough. -/
theorem firstLongestZeros_longestZeroRun (several : 2 ≤ (longestZeroRun 0 groups).2) :
    FirstLongestZeros groups (groups.take (longestZeroRun 0 groups).1)
      (groups.drop ((longestZeroRun 0 groups).1 + (longestZeroRun 0 groups).2))
      (longestZeroRun 0 groups).2 where
  splits := by simpa only [Nat.sub_zero] using (longestZeroRun_splits 0 groups).2
  several := several
  first before run after split := by
    have found := longestZeroRun_first 0 split
    have bounded := List.length_take_le (longestZeroRun 0 groups).1 groups
    omega

/-- Two zeros next to each other are a long enough run. -/
theorem several_iff :
    2 ≤ (longestZeroRun 0 groups).2 ↔ ∃ before after, groups = before ++ [0, 0] ++ after := by
  constructor
  · intro several
    obtain ⟨more, isZeros⟩ := Nat.exists_eq_add_of_le several
    have splits := (firstLongestZeros_longestZeroRun several).splits
    rw [isZeros, List.replicate_add, ← List.append_assoc, List.append_assoc _ _ (List.drop _ _)]
      at splits
    exact ⟨_, _, splits⟩
  · intro ⟨before, after, split⟩
    have asRun : groups = before ++ List.replicate 2 0 ++ after := split
    have found := longestZeroRun_first 0 asRun
    omega

theorem printCompressed_of_several (several : 2 ≤ (longestZeroRun 0 groups).2) :
    printCompressed groups =
      joined [':'] ((groups.take (longestZeroRun 0 groups).1).map hexadecimal) ++ [':', ':'] ++
        joined [':'] ((groups.drop ((longestZeroRun 0 groups).1 +
          (longestZeroRun 0 groups).2)).map hexadecimal) := by
  simp only [printCompressed, several, if_true, printGroups]

theorem printCompressed_of_few (few : ¬ 2 ≤ (longestZeroRun 0 groups).2) :
    printCompressed groups = joined [':'] (groups.map hexadecimal) := by
  simp only [printCompressed, few, if_false, printGroups]

/-- What is printed of groups is their canonical text, and nothing else is. -/
theorem canonicalGroups_iff {text : List Char} :
    CanonicalGroups text groups ↔ text = printCompressed groups := by
  by_cases several : 2 ≤ (longestZeroRun 0 groups).2
  · have isFirst := firstLongestZeros_longestZeroRun several
    rw [printCompressed_of_several several]
    constructor
    · intro canonical
      cases canonical with
      | full noZeros =>
          have ⟨before, after, split⟩ := several_iff.mp several
          exact absurd split (noZeros before after)
      | gap isGap =>
          have ⟨sameFront, sameBack⟩ := isGap.unique isFirst
          rw [sameFront, sameBack]
    · intro isPrinted
      exact isPrinted ▸ .gap isFirst
  · rw [printCompressed_of_few several]
    constructor
    · intro canonical
      cases canonical with
      | full => rfl
      | gap isGap =>
          have found := longestZeroRun_first 0 isGap.splits
          have two := isGap.several
          omega
    · intro isPrinted
      refine isPrinted ▸ .full fun before after split => ?_
      exact several (several_iff.mpr ⟨before, after, split⟩)

end

/-! ## Addresses -/

/-- The one text of an address that is canonical.  A version 4 address behind the mapping mark
is shown in octets. -/
inductive Address.Canonical : List Char → Address → Prop where
  | v4 (bits : BitVec 32) : Canonical (joined ['.'] ((octets bits).map decimal)) (.v4 bits)
  | mapped {bits : BitVec 128} {low : BitVec 32} : bits = 0xffff#96 ++ low →
      Canonical ("::ffff:".toList ++ joined ['.'] ((octets low).map decimal)) (.v6 bits)
  | grouped {text : List Char} {bits : BitVec 128} : (∀ low : BitVec 32, bits ≠ 0xffff#96 ++ low) →
      CanonicalGroups text (groups bits) → Canonical text (.v6 bits)

theorem toNat_mapped (low : BitVec 32) :
    (0xffff#96 ++ low : BitVec 128).toNat = 0xffff <<< 32 + low.toNat := by
  have appended : (0xffff#96 ++ low : BitVec 128).toNat = 0xffff <<< 32 ||| low.toNat :=
    BitVec.toNat_append 0xffff#96 low
  rw [appended, Nat.shiftLeft_add_eq_or_of_lt low.isLt]

/-- The version 4 address in a version 6 address is what stands behind the mapping mark. -/
theorem mapped?_eq_some_iff {bits : BitVec 128} {low : BitVec 32} :
    mapped? bits = some low ↔ bits = 0xffff#96 ++ low := by
  rw [mapped?, Option.ite_none_right_eq_some, Option.some.injEq]
  have highNumber : (bits >>> 32).toNat = bits.toNat / 2 ^ 32 := by
    rw [BitVec.toNat_ushiftRight, Nat.shiftRight_eq_div_pow]
  have lowNumber : (bits.setWidth 32).toNat = bits.toNat % 2 ^ 32 := BitVec.toNat_setWidth ..
  have lowBound := low.isLt
  rw [← BitVec.toNat_inj, ← BitVec.toNat_inj, ← BitVec.toNat_inj, highNumber, lowNumber,
    toNat_mapped, Nat.shiftLeft_eq, BitVec.toNat_ofNat]
  omega

/-- What is printed of an address is its canonical text, and nothing else is. -/
theorem Address.canonical_iff {text : List Char} {address : Address} :
    Canonical text address ↔ text = address.written := by
  constructor
  · intro canonical
    cases canonical with
    | v4 bits => rfl
    | mapped isMapped =>
        rw [written, printV6, mapped?_eq_some_iff.mpr isMapped]
        rfl
    | grouped notMapped canonicalGroups =>
        rw [written, printV6, Option.eq_none_iff_forall_ne_some.mpr fun low mapped =>
          notMapped low (mapped?_eq_some_iff.mp mapped)]
        exact canonicalGroups_iff.mp canonicalGroups
  · intro isPrinted
    rw [isPrinted]
    cases address with
    | v4 bits => exact .v4 bits
    | v6 bits =>
        rw [written, printV6]
        cases isMapped : mapped? bits with
        | some low => exact .mapped (mapped?_eq_some_iff.mp isMapped)
        | none =>
            refine .grouped (fun low mapped => ?_) (canonicalGroups_iff.mpr rfl)
            rw [mapped?_eq_some_iff.mpr mapped] at isMapped
            cases isMapped

/-- Of two longest runs the first becomes the gap. -/
example : (Address.v6 0x20010db8000000000001000000000001#128).print = "2001:db8::1:0:0:1" := by
  decide +kernel

namespace Network

/-! ## Networks -/

/-- The one text of a network that is canonical: the one of its address, and its length in
decimal. -/
def Canonical (text : List Char) (network : Network) : Prop :=
  ∃ address, Address.Canonical address network.address ∧
    text = address ++ '/' :: decimal network.length

theorem canonical_iff {text : String} {network : Network} :
    Canonical text.toList network ↔ text = network.print := by
  rw [← String.toList_inj, toList_print]
  constructor
  · intro ⟨address, canonical, split⟩
    rw [split, Address.canonical_iff.mp canonical]
    rfl
  · intro isWritten
    exact ⟨_, Address.canonical_iff.mpr rfl, isWritten⟩

/-- A text read and written again. -/
def rewrite? (text : String) : Option String :=
  (parse? text).map print

/-- What spells a network becomes the network's canonical text. -/
theorem rewrite?_of_spelled {text : String} {network : Network}
    (spelled : Spelled text.toList network) : rewrite? text = some network.print := by
  rw [rewrite?, parse?_eq_some_iff.mpr spelled]
  rfl

/-- Of the texts that spell a network only the canonical one does not change. -/
theorem rewrite?_eq_self_iff {text : String} {network : Network} :
    Spelled text.toList network ∧ rewrite? text = some text ↔ text = network.print := by
  constructor
  · intro ⟨spelled, unchanged⟩
    rw [rewrite?_of_spelled spelled, Option.some.injEq] at unchanged
    exact unchanged.symm
  · intro isPrinted
    have spelled : Spelled text.toList network :=
      parse?_eq_some_iff.mp (isPrinted ▸ network.parse?_print)
    exact ⟨spelled, (rewrite?_of_spelled spelled).trans (congrArg some isPrinted.symm)⟩

end Network

end GatewayAcl.Net
