import GatewayAcl.Proofs.Json.Records

/-!
# The two notations of a record

A record is written as an object or, with its fields in the order of the shape, as an
array.  Whichever it is, a record is decoded from what the value gives for each of its
fields: the member of the field's name or the item at the field's position.
-/

namespace GatewayAcl

variable {α β : Type}

namespace Shape

/-- The items of an array as the fields of the same positions. -/
def placed (fields : List (Field α)) (items : List Json) (name : String) : Option Json :=
  ((fields.map Field.name).zip items).lookup name

/-- What a value gives for the field of a name, in either notation. -/
def given (shape : Shape α) (json : Json) (name : String) : Option Json :=
  match json with
  | .object members => members.lookup name
  | .array items => placed shape.fields items name
  | _ => none

theorem canonical_given {shape : Shape α} {json value : Json} {name : String}
    (canonical : json.Canonical) (found : shape.given json name = some value) :
    value.Canonical := by
  cases json with
  | object members => exact canonical.lookup found
  | array items => exact canonical.item value (List.of_mem_zip (Members.mem_of_lookup found)).2
  | _ => cases found

/-- The notation of a value is one that the shape puts up with: an object without members
that it refuses, or an array without too many items, and with too few only if the rest
may be left out. -/
inductive Fits (shape : Shape α) : Json → Prop where
  | keyed {members : List (String × Json)} :
      (∀ entry ∈ members, shape.Admits entry.1) → Fits shape (.object members)
  | positional {items : List Json} :
      shape.strictness ≠ .keyedOnly → items.length ≤ shape.fields.length →
        (∀ field ∈ shape.fields.drop items.length, field.absence = .allowed) →
          Fits shape (.array items)

theorem fits_object_iff {shape : Shape α} {members : List (String × Json)} :
    shape.Fits (.object members) ↔ ∀ entry ∈ members, shape.Admits entry.1 := by
  constructor
  · intro fits
    cases fits with
    | keyed admitted => exact admitted
  · exact .keyed

theorem fits_array_iff {shape : Shape α} {items : List Json} :
    shape.Fits (.array items) ↔
      shape.strictness ≠ .keyedOnly ∧ items.length ≤ shape.fields.length ∧
        ∀ field ∈ shape.fields.drop items.length, field.absence = .allowed := by
  constructor
  · intro fits
    cases fits with
    | positional notKeyed short allowed => exact ⟨notKeyed, short, allowed⟩
  · intro ⟨notKeyed, short, allowed⟩
    exact .positional notKeyed short allowed

theorem fits_object_iff_of_strict {shape : Shape α} (strict : shape.strictness = .strict)
    {members : List (String × Json)} :
    shape.Fits (.object members) ↔ ∀ entry ∈ members, entry.1 ∈ shape.names := by
  simp [fits_object_iff, Admits, strict]

theorem fits_array_iff_of_allowed {shape : Shape α} (notKeyed : shape.strictness ≠ .keyedOnly)
    (allowed : ∀ field ∈ shape.fields, field.absence = .allowed) {items : List Json} :
    shape.Fits (.array items) ↔ items.length ≤ shape.fields.length := by
  rw [fits_array_iff]
  constructor
  · intro ⟨_, short, _⟩
    exact short
  · intro short
    exact ⟨notKeyed, short, fun field member => allowed field (List.mem_of_mem_drop member)⟩

/-- What is given makes a record: the fields that have to be given are, and entering those
that are given leads from one record to the other. -/
def Assembles (given : String → Option Json) (fields : List (Field α)) (record result : α) :
    Prop :=
  (∀ field ∈ fields, field.absence = .refused → given field.name ≠ none) ∧
    enterGiven given fields record = .ok result

section Assembles

variable {given : String → Option Json} {name : String} {fields : List (Field α)}
  {record result : α}

theorem assembles_nil_iff : Assembles given [] record result ↔ record = result := by
  simp [Assembles, enterGiven]

theorem assembles_defaulted_iff {decoder : Decoder β} {set : α → β → α} (absent : β)
    (unchanged : set record absent = record) :
    Assembles given (.defaulted name decoder set :: fields) record result ↔
      ∃ value, decoder.member absent (given name) = .ok value ∧
        Assembles given fields (set record value) result := by
  simp only [Assembles, List.forall_mem_cons]
  constructor
  · intro ⟨⟨_, complete⟩, entered⟩
    rcases enterGiven_defaulted absent entered unchanged with ⟨value, read, enteredRest⟩
    exact ⟨value, read, complete, enteredRest⟩
  · intro ⟨value, read, complete, enteredRest⟩
    constructor
    · constructor
      · intro refused
        cases refused
      · exact complete
    · exact enterGiven_of_member read enteredRest unchanged

theorem assembles_optional_iff {decoder : Decoder β} {set : α → Option β → α}
    (unchanged : set record none = record) :
    Assembles given (.optional name decoder set :: fields) record result ↔
      ∃ value, decoder.option.member none (given name) = .ok value ∧
        Assembles given fields (set record value) result :=
  assembles_defaulted_iff none unchanged

theorem assembles_required_iff {decoder : Decoder β} {set : α → β → α} :
    Assembles given (.required name decoder set :: fields) record result ↔
      ∃ value, (∃ json, given name = some json ∧ decoder.ofJson json = .ok value) ∧
        Assembles given fields (set record value) result := by
  simp only [Assembles, List.forall_mem_cons]
  constructor
  · intro ⟨⟨present, complete⟩, entered⟩
    rcases enterGiven_required (present rfl) entered with ⟨json, value, found, read, enteredRest⟩
    exact ⟨value, ⟨json, found, read⟩, complete, enteredRest⟩
  · intro ⟨value, ⟨json, found, read⟩, complete, enteredRest⟩
    constructor
    · constructor
      · intro _
        exact Option.ne_none_iff_exists'.mpr ⟨json, found⟩
      · exact complete
    · exact enterGiven_of_required found read enteredRest

end Assembles

/-- A record that puts up with other members is decoded exactly if what its own members say
makes the record. -/
theorem decoder_object_iff_of_lenient {shape : Shape α} (orderly : shape.Orderly)
    (lenient : shape.strictness ≠ .strict) {members : List (String × Json)}
    (ascending : Members.Ascending members) {record : α} :
    shape.decoder.ofJson (.object members) = .ok record ↔
      Assembles (members.lookup ·) shape.fields shape.blank record := by
  rw [decoder_object_eq_ok_iff orderly ascending, Assembles]
  apply and_iff_right
  intro _ _
  exact .inr lenient

/-- An item behind the last field is one too many. -/
theorem surplus_toDocument (count : Nat) (item : Json) (items : List Document) :
    surplus count (item.toDocument :: items) = some (.surplusItems count) := by
  cases item <;> rfl

theorem placed_cons_self (field : Field α) (fields : List (Field α)) (item : Json)
    (items : List Json) : placed (field :: fields) (item :: items) field.name = some item :=
  List.lookup_cons_self

theorem placed_cons_of_ne {field : Field α} {name : String} (distinct : name ≠ field.name)
    (fields : List (Field α)) (item : Json) (items : List Json) :
    placed (field :: fields) (item :: items) name = placed fields items name :=
  Members.lookup_cons_of_ne distinct item _

/-- If only fields that may be left out are without an item, those that have to be given
are. -/
theorem placed_ne_none {fields : List (Field α)} {items : List Json}
    (allowed : ∀ field ∈ fields.drop items.length, field.absence = .allowed) :
    ∀ field ∈ fields, field.absence = .refused → placed fields items field.name ≠ none := by
  induction fields generalizing items with
  | nil =>
      intro field member
      cases member
  | cons head fields ih =>
      intro field member refused
      cases items with
      | nil => exact absurd (refused.symm.trans (allowed field member)) (by decide)
      | cons item items =>
          by_cases same : field.name = head.name
          · rw [same, placed_cons_self]
            exact Option.some_ne_none item
          · rw [placed_cons_of_ne same]
            rcases List.mem_cons.mp member with isHead | behind
            · exact absurd (congrArg Field.name isHead) same
            · exact ih allowed field behind refused

/-- Decoding items enters them one after the other, each as the field of its position. -/
theorem enterItems_eq_ok_iff {shape : Shape α} {count : Nat} {fields : List (Field α)}
    (distinct : (fields.map Field.name).Nodup) :
    ∀ {index : Nat} {items : List Json} {record result : α},
      shape.enterItems count index fields (Json.itemsToDocuments items) record = .ok result ↔
        items.length ≤ fields.length ∧
          (∀ field ∈ fields.drop items.length, field.absence = .allowed) ∧
          enterGiven (placed fields items) fields record = .ok result := by
  induction fields with
  | nil =>
      intro index items record result
      cases items with
      | nil => simp [Json.itemsToDocuments, enterItems, surplus, enterGiven]
      | cons item items =>
          rw [Json.itemsToDocuments, enterItems, surplus_toDocument]
          simp
  | cons field fields ih =>
      rcases List.nodup_cons.mp distinct with ⟨fresh, distinctRest⟩
      intro index items record result
      cases items with
      | nil =>
          have nothing (fields : List (Field α)) :
              enterGiven (placed fields []) fields record = .ok record :=
            enterGiven_of_none (fun _ _ => by simp [placed]) record
          have rest : shape.enterItems count (index + 1) fields (Json.itemsToDocuments []) record =
              .ok result ↔ _ := ih distinctRest
          rw [nothing] at rest ⊢
          rw [Json.itemsToDocuments] at rest ⊢
          by_cases allowed : field.absence = .allowed
          · simpa [enterItems, allowed] using rest
          · simp [enterItems, allowed]
      | cons item items =>
          -- The names are distinct, so the item at the front is given for no field behind it.
          have others : enterGiven (placed (field :: fields) (item :: items)) fields =
              enterGiven (placed fields items) fields := by
            apply enterGiven_congr
            intro other member
            apply placed_cons_of_ne
            intro same
            exact fresh (same ▸ List.mem_map_of_mem member)
          rw [Json.itemsToDocuments, enterItems, enterGiven, placed_cons_self, others]
          simp only [except_bind_eq_ok_iff, ih distinctRest, List.length_cons,
            Nat.add_le_add_iff_right, List.drop_succ_cons]
          constructor
          · intro decoded
            rcases decoded with ⟨next, entered, short, allowed, rest⟩
            exact ⟨short, allowed, next, entered, rest⟩
          · intro fitting
            rcases fitting with ⟨short, allowed, next, entered, rest⟩
            exact ⟨next, entered, short, allowed, rest⟩

/-- A record is decoded from a value exactly if the notation is one that the shape puts up
with, and what the value gives makes the record. -/
theorem decoder_eq_ok_iff {shape : Shape α} (orderly : shape.Orderly) {json : Json}
    (canonical : json.Canonical) {record : α} :
    shape.decoder.ofJson json = .ok record ↔
      shape.Fits json ∧ Assembles (shape.given json) shape.fields shape.blank record := by
  cases json with
  | object members =>
      rw [decoder_object_eq_ok_iff orderly canonical.ascending, fits_object_iff]
      rfl
  | array items =>
      have entered : shape.enterItems items.length 0 shape.fields (Json.itemsToDocuments items)
          shape.blank = .ok record ↔ _ := enterItems_eq_ok_iff orderly.distinct
      have length : (Json.itemsToDocuments items).length = items.length := by simp
      rw [Decoder.ofJson, Json.toDocument, decoder, length, fits_array_iff]
      by_cases keyedOnly : shape.strictness = .keyedOnly
      · simp [keyedOnly]
      · rw [if_neg keyedOnly, entered]
        constructor
        · intro decoded
          rcases decoded with ⟨short, allowed, given⟩
          exact ⟨⟨keyedOnly, short, allowed⟩, placed_ne_none allowed, given⟩
        · intro fitting
          rcases fitting with ⟨⟨_, short, allowed⟩, _, given⟩
          exact ⟨short, allowed, given⟩
  | _ =>
      constructor
      · intro decoded
        cases decoded
      · intro fitting
        cases fitting.1

end Shape

end GatewayAcl
