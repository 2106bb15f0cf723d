import GatewayAcl.Net.AddressReader
import GatewayAcl.Proofs.Text.Numerals

/-!
# The spelling of addresses

Which texts spell an address is said without a reader here: octets are decimal numerals
between dots, and groups are hexadecimal numerals between colons, where a gap stands for
zeros and octets may stand for the last two groups.  The reader finds exactly the addresses
that are spelled in this way, as long as the text does not go on as if there were more of
the address.
-/

namespace GatewayAcl.Net

open Text

namespace Spelling

variable (spelling : Spelling)

/-- A decimal numeral spells an octet.  Not every spelling has zeros in front of it. -/
structure IsOctet (text : List Char) (octet : Nat) : Prop where
  isNumeral : IsNumeral 10 3 text octet
  below : octet < 256
  plain : spelling.paddedOctets = false → text.head? = some '0' → text = ['0']

/-- Octets are spelled with dots between them. -/
inductive Octets : List Char → List Nat → Prop where
  | last {text : List Char} {octet : Nat} :
      spelling.IsOctet text octet → Octets text [octet]
  | cons {text rest : List Char} {octet : Nat} {octets : List Nat} :
      spelling.IsOctet text octet → Octets rest octets →
        Octets (text ++ '.' :: rest) (octet :: octets)

/-- Four octets spell a version 4 address. -/
def V4 (text : List Char) (bits : BitVec 32) : Prop :=
  ∃ octets, spelling.Octets text octets ∧ octets.length = 4 ∧
    bits = BitVec.ofNat 32 (ofDigits 256 octets)

/-- Groups are spelled in hexadecimal with colons between them.  The last two may be
spelled by four octets. -/
inductive Groups : Bool → List Char → List Nat → Prop where
  | last {text : List Char} {group : Nat} :
      IsNumeral 16 4 text group → Groups false text [group]
  | dotted {text : List Char} {octets : List Nat} :
      spelling.Octets text octets → octets.length = 4 →
        Groups true text (words 65536 2 (ofDigits 256 octets))
  | cons {text rest : List Char} {group : Nat} {groups : List Nat} {dotted : Bool} :
      IsNumeral 16 4 text group → Groups dotted rest groups →
        Groups dotted (text ++ ':' :: rest) (group :: groups)

/-- What is spelled on a side of a gap: groups, or nothing. -/
inductive Side : Bool → List Char → List Nat → Prop where
  | nothing : Side false [] []
  | groups {dotted : Bool} {text : List Char} {groups : List Nat} :
      spelling.Groups dotted text groups → Side dotted text groups

/-- The groups of a version 6 address are spelled in full, or with a gap for zeros.  The
gap stands behind fewer than eight groups, none of which are spelled by octets, and not
every spelling has a gap for no zeros. -/
inductive V6Groups : List Char → List Nat → Prop where
  | full {dotted : Bool} {text : List Char} {groups : List Nat} :
      spelling.Groups dotted text groups → groups.length = 8 → V6Groups text groups
  | gap {dotted : Bool} {front back : List Char} {before behind : List Nat} :
      spelling.Side false front before → spelling.Side dotted back behind →
        before.length < 8 →
        before.length + behind.length ≤ (if spelling.emptyGap then 8 else 7) →
          V6Groups (front ++ ':' :: ':' :: back)
            (before ++ List.replicate (8 - before.length - behind.length) 0 ++ behind)

/-- Eight groups spell a version 6 address. -/
def V6 (text : List Char) (bits : BitVec 128) : Prop :=
  ∃ groups, spelling.V6Groups text groups ∧ bits = BitVec.ofNat 128 (ofDigits 65536 groups)

/-- A text spells an address of either family. -/
inductive Spells : List Char → Address → Prop where
  | v4 {text : List Char} {bits : BitVec 32} : spelling.V4 text bits → Spells text (.v4 bits)
  | v6 {text : List Char} {bits : BitVec 128} : spelling.V6 text bits → Spells text (.v6 bits)

end Spelling

variable {spelling : Spelling} {first : Bool} {count limit : Nat} {text written rest : List Char}
  {octets groups : List Nat} {dotted : Bool}

/-- What stands in front of the next item of a list: a separator, except in front
of the first item. -/
def lead (separator : Char) (first : Bool) (text : List Char) : List Char :=
  if first then text else separator :: text

@[simp] theorem afterSeparator_true (separator : Char) (text : List Char) :
    afterSeparator separator true text = some text := rfl

@[simp] theorem afterSeparator_lead (separator : Char) (first : Bool) (text : List Char) :
    afterSeparator separator first (lead separator first text) = some text := by
  cases first <;> simp [afterSeparator, lead]

theorem afterSeparator_eq_some_iff {separator : Char} :
    afterSeparator separator first text = some rest ↔ text = lead separator first rest := by
  constructor
  · intro found
    cases first with
    | true => exact Option.some.inj found
    | false =>
        cases text with
        | nil => cases found
        | cons char behind =>
            have ⟨isSeparator, isRest⟩ := Option.ite_none_right_eq_some.mp found
            cases isRest
            exact isSeparator ▸ rfl
  · intro led
    exact led ▸ afterSeparator_lead separator first rest

/-! ## Octets -/

theorem isPadded_append {digits : List Char} {number : Nat}
    (isNumeral : IsNumeral 10 3 digits number) (ends : EndsDigits 10 rest) :
    isPadded (digits ++ rest) = true ↔ digits.head? = some '0' ∧ digits ≠ ['0'] := by
  cases digits with
  | nil => exact absurd rfl isNumeral.nonempty
  | cons digit digits =>
      by_cases zero : digit = '0'
      · subst zero
        cases digits with
        | nil =>
            cases rest with
            | nil => simp [isPadded]
            | cons char rest => simp [isPadded, ends char rfl]
        | cons next digits =>
            have ⟨_, areDigits, _⟩ := isNumeral.spells
            cases areDigits with
            | cons _ areDigits =>
                cases areDigits with
                | cons isDigit _ => simp [isPadded, isDigit]
      · simp [isPadded, zero]

theorem readOctet_eq_some_iff {octet : Nat} :
    readOctet spelling text = some (octet, rest) ↔
      ∃ digits, text = digits ++ rest ∧ spelling.IsOctet digits octet ∧ EndsDigits 10 rest := by
  constructor
  · intro read
    have ⟨unpadded, readDigits⟩ := Option.ite_none_left_eq_some.mp read
    have ⟨digits, splits, isNumeral, below, ends⟩ := readNumeral_eq_some_iff.mp readDigits
    refine ⟨digits, splits, ⟨isNumeral, below, fun noPadding isZero => ?_⟩, ends⟩
    refine Decidable.by_contra fun several => unpadded ?_
    rw [splits, (isPadded_append isNumeral ends).mpr ⟨isZero, several⟩, noPadding]
    rfl
  · intro ⟨digits, splits, isOctet, ends⟩
    refine Option.ite_none_left_eq_some.mpr ⟨fun padded => ?_, ?_⟩
    · have ⟨isPadded, noPadding⟩ := (Bool.and_eq_true _ _).mp padded
      have ⟨isZero, several⟩ := (isPadded_append isOctet.isNumeral ends).mp (splits ▸ isPadded)
      exact several (isOctet.plain ((Bool.not_eq_true' _).mp noPadding) isZero)
    · exact readNumeral_eq_some_iff.mpr ⟨digits, splits, isOctet.isNumeral, isOctet.below, ends⟩

theorem readOctets_succ_eq_some_iff :
    readOctets spelling (count + 1) first text = some (octets, rest) ↔
      ∃ digits octet behind others, text = lead '.' first (digits ++ behind) ∧
        spelling.IsOctet digits octet ∧ EndsDigits 10 behind ∧
        readOctets spelling count false behind = some (others, rest) ∧
        octets = octet :: others := by
  simp only [readOctets, Option.bind_eq_bind, Option.bind_eq_some_iff, Prod.exists,
    afterSeparator_eq_some_iff, readOctet_eq_some_iff, Option.some.injEq, Prod.mk.injEq]
  constructor
  · intro ⟨led, isLed, octet, behind, ⟨digits, splits, isOctet, ends⟩, others, left, readOthers,
      areOctets, isLeft⟩
    exact ⟨digits, octet, behind, others, splits ▸ isLed, isOctet, ends, isLeft ▸ readOthers,
      areOctets.symm⟩
  · intro ⟨digits, octet, behind, others, isLed, isOctet, ends, readOthers, areOctets⟩
    exact ⟨_, isLed, octet, behind, ⟨digits, rfl, isOctet, ends⟩, others, rest, readOthers,
      areOctets.symm, rfl⟩

theorem readOctets_sound
    (read : readOctets spelling (count + 1) first text = some (octets, rest)) :
    ∃ written, text = lead '.' first (written ++ rest) ∧ spelling.Octets written octets ∧
      octets.length = count + 1 ∧ EndsDigits 10 rest := by
  induction count generalizing first text octets with
  | zero =>
      have ⟨digits, octet, behind, others, isLed, isOctet, ends, readOthers, areOctets⟩ :=
        readOctets_succ_eq_some_iff.mp read
      cases readOthers
      exact ⟨digits, isLed, areOctets ▸ .last isOctet, areOctets ▸ rfl, ends⟩
  | succ count ih =>
      have ⟨digits, octet, behind, others, isLed, isOctet, _, readOthers, areOctets⟩ :=
        readOctets_succ_eq_some_iff.mp read
      have ⟨written, isBehind, spelled, many, ends⟩ := ih readOthers
      refine ⟨digits ++ '.' :: written, ?_, areOctets ▸ .cons isOctet spelled, ?_, ends⟩
      · rw [isLed, isBehind, List.append_assoc]
        rfl
      · rw [areOctets, List.length_cons, many]

theorem readOctets_complete (spelled : spelling.Octets written octets)
    (ends : EndsDigits 10 rest) (first : Bool) :
    readOctets spelling octets.length first (lead '.' first (written ++ rest)) =
      some (octets, rest) := by
  induction spelled generalizing first with
  | last isOctet =>
      exact readOctets_succ_eq_some_iff.mpr ⟨_, _, rest, [], rfl, isOctet, ends, rfl, rfl⟩
  | @cons digits others octet octets isOctet spelled ih =>
      have dotEnds : EndsDigits 10 ('.' :: (others ++ rest)) := endsDigits_cons _ (by decide)
      rw [List.append_assoc]
      exact readOctets_succ_eq_some_iff.mpr
        ⟨digits, octet, _, octets, rfl, isOctet, dotEnds, ih false, rfl⟩

/-- A version 4 address is read in front of a text that goes on with no digit. -/
theorem readV4_eq_some_iff {bits : BitVec 32} :
    readV4 spelling text = some (bits, rest) ↔
      ∃ written, text = written ++ rest ∧ spelling.V4 written bits ∧ EndsDigits 10 rest := by
  simp only [readV4, Option.bind_eq_bind, Option.bind_eq_some_iff, Prod.exists,
    Option.some.injEq, Prod.mk.injEq]
  constructor
  · intro ⟨octets, left, read, isBits, isLeft⟩
    have ⟨written, splits, spelled, four, ends⟩ := readOctets_sound read
    exact ⟨written, isLeft ▸ splits, ⟨octets, spelled, four, isBits.symm⟩, isLeft ▸ ends⟩
  · intro ⟨written, splits, ⟨octets, spelled, four, isBits⟩, ends⟩
    have read := readOctets_complete spelled ends true
    exact ⟨octets, rest, splits ▸ four ▸ read, isBits.symm, rfl⟩

/-! ## Groups -/

/-- A text does not go on with a dot. -/
def NoDot (text : List Char) : Prop :=
  text.head? ≠ some '.'

@[simp] theorem length_words (radix count number : Nat) :
    (words radix count number).length = count := by
  induction count generalizing number with
  | zero => rfl
  | succ count ih => simp [words, ih]

theorem endsDigits_ten_of_sixteen (ends : EndsDigits 16 text) : EndsDigits 10 text := by
  intro char member
  cases isDigit : digitValue? 10 char with
  | none => rfl
  | some value => cases (ends char member).symm.trans (digitValue?_mono (by decide) isDigit)

/-- A text that begins with no digit begins with no octet. -/
theorem readOctets_eq_none_of_endsDigits (spelling : Spelling) (count : Nat)
    {text : List Char} (ends : EndsDigits 10 text) :
    readOctets spelling (count + 1) true text = none := by
  simp [readOctets, readOctet, readNumeral_eq_none 3 256 ends]

/-- Hexadecimal digits in front of no dot begin no octets. -/
theorem readOctets_eq_none_of_hexadecimal {digits : List Char} {values : List Nat}
    (areDigits : AreDigits 16 digits values) (ends : EndsDigits 16 rest) (noDot : NoDot rest) :
    readOctets spelling (count + 2) true (digits ++ rest) = none := by
  rw [Option.eq_none_iff_forall_ne_some]
  intro ⟨octets, left⟩ read
  have ⟨written, splits, spelled, many, _⟩ := readOctets_sound read
  cases spelled with
  | last isOctet => cases many
  | @cons decimals others octet octets isOctet spelled =>
      have ⟨decimalValues, areDecimals, _⟩ := isOctet.isNumeral.spells
      have areHexadecimal : AreDigits 16 decimals decimalValues :=
        areDecimals.imp fun _ _ => digitValue?_mono (by decide)
      have dotEnds : EndsDigits 16 ('.' :: (others ++ left)) := endsDigits_cons _ (by decide)
      have run := digitRun_append areHexadecimal dotEnds
      -- The digits end in front of the dot, and they end in front of the rest.
      have same : decimals ++ '.' :: (others ++ left) = digits ++ rest := by
        rw [splits, List.append_assoc]
        rfl
      rw [same, digitRun_append areDigits ends] at run
      have isRest := (Prod.mk.inj run).2
      exact noDot (isRest ▸ rfl)

/-- No further group follows: a text begins neither with a digit nor with a dot
nor with a colon that has a digit behind it. -/
structure EndsGroups (text : List Char) : Prop where
  digits : EndsDigits 16 text
  noDot : NoDot text
  behindColon : ∀ behind, text = ':' :: behind → EndsDigits 16 behind

theorem endsGroups_gap (behind : List Char) : EndsGroups (':' :: ':' :: behind) where
  digits := endsDigits_cons _ (by decide)
  noDot := by simp [NoDot]
  behindColon := by
    intro other equal
    cases equal
    exact endsDigits_cons _ (by decide)

theorem readGroups_eq_nil (spelling : Spelling) (limit : Nat) (first : Bool)
    {text : List Char} (ends : EndsGroups text) :
    readGroups spelling limit first text = ⟨[], false, text⟩ := by
  have nothing : ∀ behind, afterSeparator ':' first text = some behind →
      EndsDigits 16 behind := by
    intro behind found
    have isLed := afterSeparator_eq_some_iff.mp found
    cases first with
    | true =>
        have same : text = behind := isLed
        exact same ▸ ends.digits
    | false => exact ends.behindColon behind isLed
  cases limit with
  | zero => rfl
  | succ limit =>
      cases found : afterSeparator ':' first text with
      | none => simp [readGroups, found]
      | some behind =>
          have digits := nothing behind found
          have noOctets := readOctets_eq_none_of_endsDigits spelling 3
            (endsDigits_ten_of_sixteen digits)
          have noGroup := readNumeral_eq_none 4 65536 digits
          simp [readGroups, found, noOctets, noGroup]

/-- A run of groups was read in front of a text: the groups that are spelled there, or
none. -/
def GroupRun.IsRead (spelling : Spelling) (first : Bool) (text : List Char) (run : GroupRun) :
    Prop :=
  run = ⟨[], false, text⟩ ∨ ∃ written, text = lead ':' first (written ++ run.rest) ∧
    spelling.Groups run.dotted written run.groups

theorem readGroups_sound (spelling : Spelling) (limit : Nat) (first : Bool) (text : List Char) :
    (readGroups spelling limit first text).IsRead spelling first text ∧
      (readGroups spelling limit first text).groups.length ≤ limit := by
  induction limit generalizing first text with
  | zero => exact ⟨.inl rfl, Nat.le_refl 0⟩
  | succ limit ih =>
      -- Octets are looked for in front of every group, as they end the run.
      simp only [readGroups]
      split
      · next octets left readDotted =>
          have ⟨several, readOctets⟩ := Option.ite_none_left_eq_some.mp readDotted
          have ⟨behind, isLed, read⟩ := Option.bind_eq_some_iff.mp readOctets
          have ⟨written, splits, spelled, four, _⟩ := readOctets_sound read
          refine ⟨.inr ⟨written, ?_, .dotted spelled four⟩, ?_⟩
          · rw [afterSeparator_eq_some_iff.mp isLed, splits]
            rfl
          · rw [length_words]
            omega
      · split
        · exact ⟨.inl rfl, Nat.zero_le _⟩
        · next group behind readGroup =>
            have ⟨led, isLed, read⟩ := Option.bind_eq_some_iff.mp readGroup
            have ⟨digits, splits, isNumeral, _, _⟩ := readNumeral_eq_some_iff.mp read
            have text_eq := (afterSeparator_eq_some_iff.mp isLed).trans
              (congrArg (lead ':' first) splits)
            have ⟨isRead, few⟩ := ih false behind
            refine ⟨.inr ?_, Nat.succ_le_succ few⟩
            cases isRead with
            | inl isEmpty =>
                simp only [isEmpty]
                exact ⟨digits, text_eq, .last isNumeral⟩
            | inr isSpelled =>
                have ⟨written, isBehind, spelled⟩ := isSpelled
                refine ⟨digits ++ ':' :: written, ?_, .cons isNumeral spelled⟩
                rw [text_eq, List.append_assoc]
                exact congrArg (fun behind => lead ':' first (digits ++ behind)) isBehind

/-- Hexadecimal digits in front of no dot are read as a group. -/
theorem readGroups_of_isNumeral {digits : List Char} {group : Nat}
    (isNumeral : IsNumeral 16 4 digits group) (ends : EndsDigits 16 rest) (noDot : NoDot rest)
    (first : Bool) :
    readGroups spelling (limit + 1) first (lead ':' first (digits ++ rest)) =
      ⟨group :: (readGroups spelling limit false rest).groups,
        (readGroups spelling limit false rest).dotted,
        (readGroups spelling limit false rest).rest⟩ := by
  have ⟨values, areDigits, _⟩ := isNumeral.spells
  have noOctets : readOctets spelling 4 true (digits ++ rest) = none :=
    readOctets_eq_none_of_hexadecimal areDigits ends noDot
  have below : group < 65536 := isNumeral.lt (by decide)
  have read := readNumeral_eq_some_iff.mpr ⟨digits, rfl, isNumeral, below, ends⟩
  simp [readGroups, noOctets, read]

theorem readGroups_complete (spelled : spelling.Groups dotted written groups)
    (fits : groups.length ≤ limit) (ends : EndsGroups rest) (first : Bool) :
    readGroups spelling limit first (lead ':' first (written ++ rest)) =
      ⟨groups, dotted, rest⟩ := by
  induction spelled generalizing limit first with
  | last isNumeral =>
      cases limit with
      | zero => cases fits
      | succ limit =>
          rw [readGroups_of_isNumeral isNumeral ends.digits ends.noDot,
            readGroups_eq_nil spelling limit false ends]
  | @dotted written octets spelled four =>
      rw [length_words] at fits
      obtain ⟨limit, rfl⟩ := Nat.exists_eq_add_of_le' fits
      have read := readOctets_complete spelled (endsDigits_ten_of_sixteen ends.digits) true
      rw [four] at read
      simp [readGroups, show readOctets spelling 4 true (written ++ rest) = _ from read]
  | @cons digits written group groups dotted isNumeral spelled ih =>
      cases limit with
      | zero => cases fits
      | succ limit =>
          have colonEnds : EndsDigits 16 (':' :: (written ++ rest)) := endsDigits_cons _ (by decide)
          have readRest := ih (Nat.le_of_succ_le_succ fits) false
          rw [List.append_assoc, List.cons_append,
            readGroups_of_isNumeral isNumeral colonEnds (by simp [NoDot]),
            show readGroups spelling limit false (':' :: (written ++ rest)) = _ from readRest]

theorem readGroups_side_complete (spelled : spelling.Side dotted written groups)
    (fits : groups.length ≤ limit) (ends : EndsGroups rest) :
    readGroups spelling limit true (written ++ rest) = ⟨groups, dotted, rest⟩ := by
  cases spelled with
  | nothing => exact readGroups_eq_nil spelling limit true ends
  | groups spelled => exact readGroups_complete spelled fits ends true

theorem readGroups_side_sound (spelling : Spelling) (limit : Nat) (text : List Char) :
    ∃ written groups dotted rest, text = written ++ rest ∧
      spelling.Side dotted written groups ∧ groups.length ≤ limit ∧
      readGroups spelling limit true text = ⟨groups, dotted, rest⟩ := by
  have ⟨isRead, few⟩ := readGroups_sound spelling limit true text
  cases isRead with
  | inl isEmpty => exact ⟨[], [], false, text, rfl, .nothing, Nat.zero_le limit, isEmpty⟩
  | inr isSpelled =>
      have ⟨written, splits, spelled⟩ := isSpelled
      exact ⟨written, _, _, _, splits, .groups spelled, few, rfl⟩

theorem Spelling.Side.groups_of_length_pos (spelled : spelling.Side dotted written groups)
    (some : 0 < groups.length) : spelling.Groups dotted written groups := by
  cases spelled with
  | nothing => cases some
  | groups spelled => exact spelled

theorem fits_gap_iff {emptyGap : Bool} {before behind : Nat} (fewer : before < 8) :
    before + behind ≤ (if emptyGap then 8 else 7) ↔
      behind ≤ if emptyGap then 8 - before else 8 - before - 1 := by
  cases emptyGap with
  | false =>
      rw [if_neg Bool.false_ne_true, if_neg Bool.false_ne_true]
      omega
  | true =>
      rw [if_pos rfl, if_pos rfl]
      omega

/-- The groups of a version 6 address that are spelled in front of a text are read. -/
theorem readV6Groups_complete (spelled : spelling.V6Groups written groups)
    (ends : EndsGroups rest) :
    readV6Groups spelling (written ++ rest) = some (groups, rest) := by
  cases spelled with
  | full spelled eight =>
      have read := readGroups_side_complete (.groups spelled) (Nat.le_of_eq eight) ends
      simp [readV6Groups, read, eight]
  | @gap dotted front back before behind spelledFront spelledBack fewer fits =>
      have readFront := readGroups_side_complete spelledFront (Nat.le_of_lt fewer)
        (endsGroups_gap (back ++ rest))
      have readBack := readGroups_side_complete spelledBack ((fits_gap_iff fewer).mp fits) ends
      have missing : 8 - before.length ≠ 0 := by omega
      simp [readV6Groups, readFront, missing, readBack]

/-- The groups of a version 6 address that are read are spelled in front of the text. -/
theorem readV6Groups_sound (read : readV6Groups spelling text = some (groups, rest)) :
    ∃ written, text = written ++ rest ∧ spelling.V6Groups written groups := by
  have ⟨front, before, dotted, left, splitsFront, spelledFront, few, readFront⟩ :=
    readGroups_side_sound spelling 8 text
  simp only [readV6Groups, readFront] at read
  split at read
  · next full =>
      have eight : before.length = 8 := by omega
      have spelled := spelledFront.groups_of_length_pos (by omega)
      cases read
      exact ⟨front, splitsFront, .full spelled eight⟩
  · next missing =>
      have ⟨plain, readGap⟩ := Option.ite_none_left_eq_some.mp read
      cases (Bool.not_eq_true dotted).mp plain
      split at readGap
      · next behindGap =>
          have ⟨back, behind, _, _, splitsBack, spelledBack, room, readBack⟩ :=
            readGroups_side_sound spelling
              (if spelling.emptyGap then 8 - before.length else 8 - before.length - 1) behindGap
          rw [readBack] at readGap
          cases readGap
          have fewer : before.length < 8 := by omega
          have fits := (fits_gap_iff fewer).mpr room
          refine ⟨front ++ ':' :: ':' :: back, ?_, .gap spelledFront spelledBack fewer fits⟩
          rw [splitsFront, splitsBack, List.append_assoc]
          rfl
      · cases readGap

theorem readV6_complete {bits : BitVec 128} (spelled : spelling.V6 written bits)
    (ends : EndsGroups rest) : readV6 spelling (written ++ rest) = some (bits, rest) := by
  have ⟨groups, spelledGroups, isBits⟩ := spelled
  simp [readV6, readV6Groups_complete spelledGroups ends, isBits]

theorem readV6_sound {bits : BitVec 128} (read : readV6 spelling text = some (bits, rest)) :
    ∃ written, text = written ++ rest ∧ spelling.V6 written bits := by
  have ⟨⟨groups, left⟩, readGroups, isBits⟩ := Option.bind_eq_some_iff.mp read
  cases isBits
  have ⟨written, splits, spelled⟩ := readV6Groups_sound readGroups
  exact ⟨written, splits, groups, spelled, rfl⟩

/-- A text begins with hexadecimal digits, or with none, and a colon. -/
def BeginsGroups (text : List Char) : Prop :=
  ∃ digits values behind, AreDigits 16 digits values ∧ text = digits ++ ':' :: behind

theorem beginsGroups_of_isNumeral {digits : List Char} {group : Nat}
    (isNumeral : IsNumeral 16 4 digits group) (behind : List Char) :
    BeginsGroups (digits ++ ':' :: behind) := by
  have ⟨values, areDigits, _⟩ := isNumeral.spells
  exact ⟨digits, values, behind, areDigits, rfl⟩

theorem BeginsGroups.append (begins : BeginsGroups text) (rest : List Char) :
    BeginsGroups (text ++ rest) := by
  have ⟨digits, values, behind, areDigits, splits⟩ := begins
  exact ⟨digits, values, behind ++ rest, areDigits, by rw [splits, List.append_assoc]; rfl⟩

theorem beginsGroups_of_v6Groups (spelled : spelling.V6Groups written groups) :
    BeginsGroups written := by
  cases spelled with
  | full spelled eight =>
      cases spelled with
      | last isNumeral => cases eight
      | dotted octets four => cases eight
      | cons isNumeral spelled => exact beginsGroups_of_isNumeral isNumeral _
  | gap spelledFront _ _ _ =>
      cases spelledFront with
      | nothing => exact ⟨[], [], _, .nil, rfl⟩
      | groups spelled =>
          cases spelled with
          | last isNumeral => exact beginsGroups_of_isNumeral isNumeral _
          | cons isNumeral spelled => exact (beginsGroups_of_isNumeral isNumeral _).append _

/-- What spells a version 6 address begins with no version 4 address. -/
theorem readV4_eq_none_of_v6 {bits : BitVec 128} (spelled : spelling.V6 written bits)
    (rest : List Char) : readV4 spelling (written ++ rest) = none := by
  have ⟨groups, spelledGroups, _⟩ := spelled
  have ⟨digits, values, behind, areDigits, splits⟩ :=
    (beginsGroups_of_v6Groups spelledGroups).append rest
  have colonEnds : EndsDigits 16 (':' :: behind) := endsDigits_cons behind (by decide)
  have noOctets : readOctets spelling 4 true (written ++ rest) = none := by
    rw [splits]
    exact readOctets_eq_none_of_hexadecimal areDigits colonEnds (by simp [NoDot])
  simp [readV4, noOctets]

theorem readAddress_complete {address : Address} (spelled : spelling.Spells written address)
    (ends : EndsGroups rest) :
    readAddress spelling (written ++ rest) = some (address, rest) := by
  cases spelled with
  | v4 spelled =>
      have decimalEnds := endsDigits_ten_of_sixteen ends.digits
      have read := readV4_eq_some_iff.mpr ⟨written, rfl, spelled, decimalEnds⟩
      rw [readAddress, read]
  | v6 spelled =>
      rw [readAddress, readV4_eq_none_of_v6 spelled rest, readV6_complete spelled ends]
      rfl

theorem readAddress_sound {address : Address}
    (read : readAddress spelling text = some (address, rest)) :
    ∃ written, text = written ++ rest ∧ spelling.Spells written address := by
  rw [readAddress] at read
  split at read
  · next bits left readV4 =>
      cases read
      have ⟨written, splits, spelled, _⟩ := readV4_eq_some_iff.mp readV4
      exact ⟨written, splits, .v4 spelled⟩
  · have ⟨⟨bits, left⟩, readV6, isAddress⟩ := Option.map_eq_some_iff.mp read
    cases isAddress
    have ⟨written, splits, spelled⟩ := readV6_sound readV6
    exact ⟨written, splits, .v6 spelled⟩

theorem endsGroups_nil : EndsGroups [] where
  digits := endsDigits_nil 16
  noDot := by simp [NoDot]
  behindColon := by
    intro behind equal
    cases equal

theorem whole?_eq_some_iff {α : Type} {result : Option (α × List Char)} {value : α} :
    whole? result = some value ↔ result = some (value, []) := by
  match result with
  | none => simp [whole?]
  | some (_, []) => simp [whole?]
  | some (_, _ :: _) => simp [whole?]

theorem Address.parse?_eq_some_iff {address : Address} {text : String} :
    Address.parse? spelling text = some address ↔ spelling.Spells text.toList address := by
  rw [Address.parse?, whole?_eq_some_iff]
  constructor
  · intro read
    have ⟨written, splits, spelled⟩ := readAddress_sound read
    rw [splits, List.append_nil]
    exact spelled
  · intro spelled
    have read := readAddress_complete spelled endsGroups_nil
    rwa [List.append_nil] at read

end GatewayAcl.Net
