import GatewayAcl.CommandLine.Reader
import GatewayAcl.Proofs.Net.SpelledNetworks
import GatewayAcl.Proofs.Text.Pieces
import GatewayAcl.Proofs.Text.Trimming

/-!
# Lists of networks in one text

A list is read if every item of it that is not blank spells a network, and then it is the
networks of all these items in their order.  Networks that are written with commas between
them are read back, whatever blanks and blank items there are.  An item that is malformed
spoils the list wherever it stands.
-/

namespace GatewayAcl.Net

open Text

/-! ## The characters of networks -/

/-- The range of the characters that networks are spelled with.  There are no blanks in it, and
no commas. -/
def IsSyntax (char : Char) : Prop :=
  '.' ≤ char ∧ char ≤ 'f'

instance (char : Char) : Decidable (IsSyntax char) :=
  inferInstanceAs (Decidable ('.' ≤ char ∧ char ≤ 'f'))

section

variable {char : Char} {spelling : Spelling} {text : List Char}

theorem IsSyntax.not_blank (isSyntax : IsSyntax char) : isBlank char = false := by
  have low : 46 ≤ char.toNat := UInt32.le_iff_toNat_le.mp (Char.le_def.mp isSyntax.1)
  have high : char.toNat ≤ 102 := UInt32.le_iff_toNat_le.mp (Char.le_def.mp isSyntax.2)
  simp [isBlank]
  omega

theorem IsSyntax.ne_comma (isSyntax : IsSyntax char) : char ≠ ',' := by
  intro isComma
  subst isComma
  exact absurd isSyntax.1 (by decide)

theorem isSyntax_of_digit {radix value : Nat} (isDigit : digitValue? radix char = some value) :
    IsSyntax char := by
  have between (low high : Char) (inRange : (low ≤ char && char ≤ high) = true)
      (above : '.' ≤ low) (below : high ≤ 'f') : IsSyntax char := by
    have ⟨isAbove, isBelow⟩ := (Bool.and_eq_true _ _).mp inRange
    exact ⟨Char.le_trans above (of_decide_eq_true isAbove),
      Char.le_trans (of_decide_eq_true isBelow) below⟩
  rw [digitValue?, Option.filter_eq_some_iff] at isDigit
  have found := isDigit.1
  split at found
  · next decimal => exact between _ _ decimal (by decide) (by decide)
  · split at found
    · next lower => exact between _ _ lower (by decide) (by decide)
    · split at found
      · next upper => exact between _ _ upper (by decide) (by decide)
      · cases found

theorem isSyntax_of_areDigits {radix : Nat} {values : List Nat}
    (areDigits : AreDigits radix text values) : ∀ char ∈ text, IsSyntax char := by
  induction areDigits with
  | nil => exact List.forall_mem_nil _
  | cons isDigit _ ih => exact List.forall_mem_cons.mpr ⟨isSyntax_of_digit isDigit, ih⟩

theorem isSyntax_of_isNumeral {radix most number : Nat}
    (isNumeral : IsNumeral radix most text number) : ∀ char ∈ text, IsSyntax char :=
  have ⟨_, areDigits, _⟩ := isNumeral.spells
  isSyntax_of_areDigits areDigits

/-- Two parts with a mark between them consist of the right characters if the parts do. -/
theorem isSyntax_append {front behind : List Char} {mark : Char} (isMark : IsSyntax mark)
    (inFront : ∀ char ∈ front, IsSyntax char) (isBehind : ∀ char ∈ behind, IsSyntax char) :
    ∀ char ∈ front ++ mark :: behind, IsSyntax char :=
  List.forall_mem_append.mpr ⟨inFront, List.forall_mem_cons.mpr ⟨isMark, isBehind⟩⟩

theorem isSyntax_of_octets {octets : List Nat} (spelled : spelling.Octets text octets) :
    ∀ char ∈ text, IsSyntax char := by
  induction spelled with
  | last isOctet => exact isSyntax_of_isNumeral isOctet.isNumeral
  | cons isOctet _ ih =>
      exact isSyntax_append (by decide) (isSyntax_of_isNumeral isOctet.isNumeral) ih

theorem isSyntax_of_groups {dotted : Bool} {groups : List Nat}
    (spelled : spelling.Groups dotted text groups) : ∀ char ∈ text, IsSyntax char := by
  induction spelled with
  | last isNumeral => exact isSyntax_of_isNumeral isNumeral
  | dotted spelledOctets _ => exact isSyntax_of_octets spelledOctets
  | cons isNumeral _ ih => exact isSyntax_append (by decide) (isSyntax_of_isNumeral isNumeral) ih

theorem isSyntax_of_side {dotted : Bool} {groups : List Nat}
    (spelled : spelling.Side dotted text groups) : ∀ char ∈ text, IsSyntax char := by
  cases spelled with
  | nothing => exact List.forall_mem_nil _
  | groups spelledGroups => exact isSyntax_of_groups spelledGroups

theorem isSyntax_of_v6Groups {groups : List Nat} (spelled : spelling.V6Groups text groups) :
    ∀ char ∈ text, IsSyntax char := by
  cases spelled with
  | full spelledGroups _ => exact isSyntax_of_groups spelledGroups
  | gap spelledFront spelledBack _ _ =>
      have behind := List.forall_mem_cons.mpr
        ⟨(by decide : IsSyntax ':'), isSyntax_of_side spelledBack⟩
      exact isSyntax_append (by decide) (isSyntax_of_side spelledFront) behind

theorem Network.Spelled.isSyntax {network : Network} (spelled : Spelled text network) :
    ∀ char ∈ text, IsSyntax char := by
  cases spelled with
  | v4 spelledAddress isNumeral =>
      have ⟨_, spelledOctets, _⟩ := spelledAddress
      exact isSyntax_append (by decide) (isSyntax_of_octets spelledOctets)
        (isSyntax_of_isNumeral isNumeral)
  | v6 spelledAddress isNumeral =>
      have ⟨_, spelledGroups, _⟩ := spelledAddress
      exact isSyntax_append (by decide) (isSyntax_of_v6Groups spelledGroups)
        (isSyntax_of_isNumeral isNumeral)

theorem Network.Spelled.ne_nil {network : Network} (spelled : Spelled text network) :
    text ≠ [] := by
  cases spelled <;> exact List.append_ne_nil_of_right_ne_nil _ (List.cons_ne_nil _ _)

end

namespace Network

/-! ## The items of a list -/

/-- An item of a list spells a network, with any blanks around it. -/
def IsItem (item : List Char) (network : Network) : Prop :=
  ∃ core, Trims item core ∧ Spelled core network

/-- The items of a list are blank, or spell the networks of the list one after the other. -/
inductive Lists : List (List Char) → List Network → Prop where
  | nil : Lists [] []
  | blank {item : List Char} {items : List (List Char)} {networks : List Network} :
      AllBlank item → Lists items networks → Lists (item :: items) networks
  | network {item : List Char} {items : List (List Char)} {network : Network}
      {networks : List Network} :
      IsItem item network → Lists items networks → Lists (item :: items) (network :: networks)

section

variable {item : List Char} {items : List (List Char)} {network : Network}
  {networks : List Network}

theorem isItem_iff : IsItem item network ↔ ofChars? (trim item) = some network := by
  rw [ofChars?_eq_some_iff]
  constructor
  · intro ⟨core, trims, spelled⟩
    exact trim_of_trims trims ▸ spelled
  · intro spelled
    exact ⟨trim item, trims_trim item, spelled⟩

theorem IsItem.not_blank (isItem : IsItem item network) : ¬ AllBlank item := by
  have ⟨core, trims, spelled⟩ := isItem
  rw [← trim_eq_nil_iff, trim_of_trims trims]
  exact spelled.ne_nil

/-- The networks of the items that are not blank are the networks of the list. -/
theorem mapM_items_eq_some_iff :
    ((items.map trim).filter (· ≠ [])).mapM ofChars? = some networks ↔ Lists items networks := by
  induction items generalizing networks with
  | nil =>
      constructor
      · intro isNil
        cases isNil
        exact .nil
      · intro lists
        cases lists
        rfl
  | cons item items ih =>
      rw [List.map_cons]
      by_cases blank : AllBlank item
      · rw [List.filter_cons_of_neg (by simpa using trim_eq_nil_iff.mpr blank), ih]
        constructor
        · exact .blank blank
        · intro lists
          cases lists with
          | blank _ others => exact others
          | network isItem _ => exact absurd blank isItem.not_blank
      · rw [List.filter_cons_of_pos (by simpa [trim_eq_nil_iff] using blank), List.mapM_cons]
        simp only [Option.bind_eq_bind, Option.bind_eq_some_iff, Option.pure_def, ih,
          ← isItem_iff, Option.some.injEq]
        constructor
        · intro ⟨network, isItem, others, lists, same⟩
          exact same ▸ .network isItem lists
        · intro lists
          cases lists with
          | blank isBlank _ => exact absurd isBlank blank
          | network isItem others => exact ⟨_, isItem, _, others, rfl⟩

/-- Items list networks if each of them is blank or spells one. -/
theorem exists_lists_iff :
    (∃ networks, Lists items networks) ↔
      ∀ item ∈ items, ¬ AllBlank item → ∃ network, IsItem item network := by
  induction items with
  | nil => exact iff_of_true ⟨[], .nil⟩ (List.forall_mem_nil _)
  | cons item items ih =>
      rw [List.forall_mem_cons, ← ih]
      constructor
      · intro ⟨networks, lists⟩
        cases lists with
        | blank isBlank others => exact ⟨absurd isBlank, _, others⟩
        | network isItem others => exact ⟨fun _ => ⟨_, isItem⟩, _, others⟩
      · intro ⟨spells, networks, others⟩
        by_cases blank : AllBlank item
        · exact ⟨networks, .blank blank others⟩
        · have ⟨network, isItem⟩ := spells blank
          exact ⟨network :: networks, .network isItem others⟩

theorem parseList?_eq_some_iff {text : String} :
    parseList? text = some networks ↔ Lists (pieces ',' text.toList) networks :=
  mapM_items_eq_some_iff

theorem parseList?_eq_none_iff {text : String} :
    parseList? text = none ↔
      ∃ item ∈ pieces ',' text.toList, ¬ AllBlank item ∧ ¬ ∃ network, IsItem item network := by
  have refused : parseList? text = none ↔
      ¬ ∃ networks, Lists (pieces ',' text.toList) networks := by
    simp only [← parseList?_eq_some_iff, Option.eq_none_iff_forall_ne_some, not_exists, ne_eq]
  rw [refused, exists_lists_iff]
  simp only [Classical.not_forall, exists_prop]

end

/-! ## Writing lists -/

/-- A text of blanks. -/
structure Blanks where
  text : String
  allBlank : AllBlank text.toList

/-- An item of a list to be written: blanks only, or a network with blanks around it. -/
inductive Entry where
  | blank (blanks : Blanks)
  | item (front : Blanks) (network : Network) (back : Blanks)

namespace Entry

def print : Entry → String
  | .blank blanks => blanks.text
  | .item front network back => front.text ++ network.print ++ back.text

/-- The network of an item that is not blank. -/
def network? : Entry → Option Network
  | .blank _ => none
  | .item _ network _ => some network

theorem isItem_print (front : Blanks) (network : Network) (back : Blanks) :
    IsItem (Entry.item front network back).print.toList network := by
  have written : (Entry.item front network back).print.toList =
      front.text.toList ++ network.written ++ back.text.toList := by
    simp [print]
  have spelled := network.spelled_written
  rw [written]
  exact ⟨network.written, trims_of_plain front.allBlank back.allBlank fun char member =>
    (spelled.isSyntax char member).not_blank, spelled⟩

theorem comma_not_mem_print (entry : Entry) : ',' ∉ entry.print.toList := by
  have noBlank : isBlank ',' = false := by decide
  have noComma (blanks : Blanks) : ',' ∉ blanks.text.toList := fun member =>
    Bool.false_ne_true (noBlank.symm.trans (blanks.allBlank _ member))
  cases entry with
  | blank blanks => exact noComma blanks
  | item front network back =>
      have plain : ',' ∉ network.written := fun member =>
        (network.spelled_written.isSyntax _ member).ne_comma rfl
      simp [print, noComma, plain]

theorem lists_print (entries : List Entry) :
    Lists (entries.map fun entry => entry.print.toList) (entries.filterMap network?) := by
  induction entries with
  | nil => exact .nil
  | cons entry entries ih =>
      cases entry with
      | blank blanks => exact .blank blanks.allBlank ih
      | item front network back => exact .network (isItem_print front network back) ih

end Entry

theorem toList_intercalate_comma (items : List String) :
    (",".intercalate items).toList = joined [','] (items.map String.toList) := by
  rw [String.toList_intercalate, joined_eq_intercalate]
  rfl

/-- Items without commas are the pieces of the list that they are written as. -/
theorem pieces_intercalate {items : List String} (given : items ≠ [])
    (plain : ∀ item ∈ items, ',' ∉ item.toList) :
    pieces ',' (",".intercalate items).toList = items.map String.toList := by
  refine (splits_iff.mp ⟨?_, ?_, (toList_intercalate_comma items).symm⟩).symm
  · simpa using given
  · intro part member
    have ⟨item, listed, isPart⟩ := List.mem_map.mp member
    exact isPart ▸ plain item listed

/-- What is written between commas is read back, without the blanks. -/
theorem parseList?_intercalate (entries : List Entry) :
    parseList? (",".intercalate (entries.map Entry.print)) =
      some (entries.filterMap Entry.network?) := by
  cases entries with
  | nil => rfl
  | cons entry entries =>
      have plain : ∀ item ∈ (entry :: entries).map Entry.print, ',' ∉ item.toList := by
        intro item member
        have ⟨source, _, isItem⟩ := List.mem_map.mp member
        exact isItem ▸ source.comma_not_mem_print
      rw [parseList?_eq_some_iff, pieces_intercalate (by simp) plain, List.map_map]
      exact Entry.lists_print (entry :: entries)

/-- A malformed item spoils the list. -/
theorem parseList?_spoiled {item : String} (plain : ',' ∉ item.toList)
    (notBlank : ¬ AllBlank item.toList) (malformed : ¬ ∃ network, IsItem item.toList network)
    (before after : List String) :
    parseList? (",".intercalate (before ++ item :: after)) = none := by
  have given : (before ++ item :: after).map String.toList ≠ [] := by simp
  rw [parseList?_eq_none_iff, toList_intercalate_comma, pieces_joined given]
  refine ⟨item.toList, ?_, notBlank, malformed⟩
  simp [pieces_of_not_mem plain]

/-- The reading of lists is exact.  A text is taken apart at its commas in one way.  It is a
list exactly if each of its parts that is not blank spells a network within blanks, and then
the list is the networks of these parts in their order.  Whatever blanks and blank parts are
written among networks, the networks are read back.  A malformed part, wherever it stands,
makes an error of the whole value of an option. -/
theorem parseList?_exact :
    (∀ text : String, ∃ parts, (∀ others, Splits ',' text.toList others ↔ others = parts) ∧
      ((∃ networks, parseList? text = some networks) ↔
        ∀ part ∈ parts, ¬ AllBlank part → ∃ network, IsItem part network) ∧
      ∀ networks, parseList? text = some networks ↔ Lists parts networks) ∧
    (∀ entries : List Entry, parseList? (",".intercalate (entries.map Entry.print)) =
      some (entries.filterMap Entry.network?)) ∧
    ∀ item : String, ',' ∉ item.toList → ¬ AllBlank item.toList →
      (¬ ∃ network, IsItem item.toList network) → ∀ before after : List String,
        parseList? (",".intercalate (before ++ item :: after)) = none ∧
        CommandLine.readNetworks (",".intercalate (before ++ item :: after)).toList =
          .error .malformedValue := by
  refine ⟨fun text => ?_, parseList?_intercalate, fun item plain notBlank malformed => ?_⟩
  · refine ⟨pieces ',' text.toList, fun _ => splits_iff, ?_, fun _ => parseList?_eq_some_iff⟩
    simp only [parseList?_eq_some_iff, exists_lists_iff]
  · intro before after
    have spoiled := parseList?_spoiled plain notBlank malformed before after
    refine ⟨spoiled, ?_⟩
    rw [CommandLine.readNetworks, String.ofList_toList, spoiled]

/-- Blanks of several scripts, a repeated network and an empty item at the end. -/
example : parseList? "10.0.0.1/8,\u2003::/0 ,10.0.0.1/8,\t," =
    some [.v4 0x0a000001#32 8, .v6 0#128 0, .v4 0x0a000001#32 8] := by decide +kernel

end Network

end GatewayAcl.Net
