import GatewayAcl.Proofs.Json.Records

/-!
# Values that survive being written

A value that has been decoded and is encoded again may look different from what it was
decoded from: members are gone that nobody knows, others are there that were left out.  It
survives that if it is decoded from its encoded form once more.

Decoders of plain values go further.  They take nothing but the encoded forms of values, so
that encoding gives back the very thing that was decoded.
-/

namespace GatewayAcl

variable {α β : Type}

/-- What is given, unless it is null. -/
def Json.unlessNull : Option Json → Option Json
  | some .null => none
  | given => given

theorem Json.unlessNull_some {json : Json} (notNull : json ≠ .null) :
    unlessNull (some json) = some json := by
  cases json with
  | null => exact absurd rfl notNull
  | _ => rfl

theorem Json.unlessNull_eq_some_iff {given : Option Json} {json : Json} :
    unlessNull given = some json ↔ given = some json ∧ json ≠ .null := by
  cases given with
  | none => simp [unlessNull]
  | some other =>
      by_cases isNull : other = .null
      · subst isNull
        simp only [unlessNull, reduceCtorEq, Option.some.injEq, false_iff]
        intro ⟨same, notNull⟩
        exact notNull same.symm
      · rw [unlessNull_some isNull, Option.some.injEq, iff_self_and]
        intro same
        exact same ▸ isNull

namespace Decoder

/-- An optional member has a value if something other than null is given, and then the
value that this is decoded as. -/
theorem member_option_eq_ok_iff {decoder : Decoder α} {given : Option Json}
    {value? : Option α} :
    decoder.option.member none given = .ok value? ↔
      Option.Rel (fun json value => decoder.ofJson json = .ok value) (Json.unlessNull given)
        value? := by
  cases given with
  | none => cases value? <;> simp [member, Json.unlessNull]
  | some json =>
      by_cases isNull : json = .null
      · subst isNull
        cases value? <;> simp [member, Json.unlessNull, ofJson, Json.toDocument, option]
      · rw [member, option_ofJson decoder isNull, Json.unlessNull_some isNull]
        cases value? <;> simp [except_map_eq_ok_iff]

/-- The decoder takes nothing but what values are encoded as. -/
def Exact (decoder : Decoder α) (encode : α → Json) : Prop :=
  ∀ {json : Json} {value : α}, json.Canonical → decoder.ofJson json = .ok value →
    json = encode value

/-- The encoded form of a value does for what it has been decoded from: it is decoded as the
value again, is canonical, and is null only if that was. -/
structure Restored (decoder : Decoder α) (encode : α → Json) (value : α) (json : Json) : Prop where
  back : decoder.ofJson (encode value) = .ok value
  canonical : (encode value).Canonical
  present : json ≠ .null → encode value ≠ .null

/-- A value survives being written, whatever it has been decoded from. -/
def Restores (decoder : Decoder α) (encode : α → Json) (value : α) : Prop :=
  ∀ json : Json, json.Canonical → decoder.ofJson json = .ok value →
    decoder.Restored encode value json

theorem Exact.restores {decoder : Decoder α} {encode : α → Json} (exact : decoder.Exact encode)
    (value : α) : decoder.Restores encode value := by
  intro json canonical decoded
  have isEncoded := exact canonical decoded
  subst isEncoded
  exact ⟨decoded, canonical, id⟩

theorem exact_json : json.Exact id := by
  intro given value canonical decoded
  rw [json_ofJson canonical] at decoded
  cases decoded
  rfl

theorem exact_string : string.Exact .string := by
  intro json text _ decoded
  cases json <;> cases decoded
  rfl

theorem exact_bool : bool.Exact .bool := by
  intro json value _ decoded
  cases json <;> cases decoded
  rfl

theorem exact_integer (typeName : String) (least greatest : Int) :
    (integer typeName least greatest).Exact .ofInt := by
  intro json value _ decoded
  cases json with
  | number number =>
      cases number with
      | integer given =>
          rw [ofJson, Json.toDocument, integer] at decoded
          split at decoded
          · cases decoded
            rfl
          · cases decoded
      | float given => cases decoded
  | _ => cases decoded

/-- What items and the values that they are decoded as have in common, one by one, the
whole lists have in common. -/
theorem map_eq_map_of_list {decoder : Decoder α} {items : List Json} {values : List α}
    (decoded : decoder.list.ofJson (.array items) = .ok values) {image : Json → β}
    {image' : α → β}
    (each : ∀ item ∈ items, ∀ value, decoder.ofJson item = .ok value → image item = image' value) :
    items.map image = values.map image' := by
  rcases list_ofJson_eq_ok_iff.mp decoded with ⟨_, isArray, read⟩
  cases isArray
  clear decoded
  induction items generalizing values with
  | nil =>
      cases values with
      | nil => rfl
      | cons value values => cases read
  | cons item items ih =>
      cases values with
      | nil => cases read
      | cons value values =>
          rcases List.cons.inj read with ⟨readItem, readItems⟩
          rcases List.forall_mem_cons.mp each with ⟨eachItem, eachItems⟩
          rw [List.map_cons, List.map_cons, eachItem value readItem, ih eachItems readItems]

theorem Exact.list {decoder : Decoder α} {encode : α → Json} (exact : decoder.Exact encode) :
    decoder.list.Exact fun values => .array (values.map encode) := by
  intro json values canonical decoded
  rcases list_ofJson_eq_ok_iff.mp decoded with ⟨items, isArray, _⟩
  subst isArray
  have same : items.map id = values.map encode :=
    map_eq_map_of_list decoded fun item member _ read => exact (canonical.item item member) read
  rw [List.map_id] at same
  exact congrArg Json.array same

theorem Exact.members {decoder : Decoder α} {encode : α → Json} (exact : decoder.Exact encode)
    {members : List (String × Json)} (each : ∀ entry ∈ members, entry.2.Canonical)
    {entries : List (String × α)}
    (decoded : Decoder.members decoder (Json.membersToDocuments members) = .ok entries) :
    members = entries.map fun entry => (entry.1, encode entry.2) := by
  induction members generalizing entries with
  | nil =>
      cases decoded
      rfl
  | cons head rest ih =>
      rcases List.forall_mem_cons.mp each with ⟨canonicalHead, canonicalRest⟩
      rw [Json.membersToDocuments, Decoder.members] at decoded
      simp only [except_mapError_ok, except_bind_ok, except_bind_eq_ok_iff] at decoded
      rcases decoded with ⟨value, readHead, others, readRest, isEntries⟩
      cases isEntries
      rw [List.map_cons, ← exact canonicalHead readHead, ← ih canonicalRest readRest]

theorem Exact.dictionary {decoder : Decoder α} {encode : α → Json} (exact : decoder.Exact encode) :
    decoder.dictionary.Exact fun dictionary =>
      .object (dictionary.entries.map fun entry => (entry.1, encode entry.2)) := by
  intro json dictionary canonical decoded
  cases json with
  | object members =>
      rcases except_map_eq_ok_iff.mp decoded with ⟨entries, read, isDictionary⟩
      have isMembers := exact.members canonical.entry read
      have ascending : Members.Ascending entries := by
        have ascendingMembers := canonical.ascending
        rw [isMembers, Members.Ascending, List.pairwise_map] at ascendingMembers
        exact ascendingMembers
      have sameEntries : dictionary.entries = entries := by
        rw [← isDictionary]
        exact Members.ofList_of_ascending ascending
      rw [isMembers, ← sameEntries]
  | _ => cases decoded

theorem Restores.list {decoder : Decoder α} {encode : α → Json} {values : List α}
    (each : ∀ value ∈ values, decoder.Restores encode value) :
    decoder.list.Restores (fun values => .array (values.map encode)) values := by
  intro json canonical decoded
  have restored : ∀ value ∈ values, ∃ item, decoder.Restored encode value item := by
    intro value member
    rcases list_ofJson_eq_ok_iff.mp decoded with ⟨items, isArray, read⟩
    subst isArray
    have fromItem : Except.ok value ∈ items.map decoder.ofJson := by
      rw [read]
      exact List.mem_map_of_mem member
    rcases List.mem_map.mp fromItem with ⟨item, itemMember, readItem⟩
    exact ⟨item, each value member item (canonical.item item itemMember) readItem⟩
  constructor
  · apply list_ofJson_map
    intro value member
    rcases restored value member with ⟨_, restoredItem⟩
    exact restoredItem.back
  · apply Json.Canonical.array
    rw [List.forall_mem_map]
    intro value member
    rcases restored value member with ⟨_, restoredItem⟩
    exact restoredItem.canonical
  · intro _ isNull
    cases isNull

end Decoder

end GatewayAcl
