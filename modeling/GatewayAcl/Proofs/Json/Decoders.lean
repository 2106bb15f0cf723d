import GatewayAcl.Json.Decoder
import GatewayAcl.Proofs.Json.Canonical

/-!
# What decoders make of values

The decoders of lists, of values that may be null and of values of any kind, said
of values instead of documents.
-/

namespace GatewayAcl.Decoder

variable {α : Type}

theorem json_ofJson {value : Json} (canonical : value.Canonical) :
    json.ofJson value = .ok value := by
  rw [ofJson, json, Json.toJson_toDocument canonical]
  rfl

/-- A value other than null is decoded as it would be if it could not be null. -/
theorem option_ofJson (decoder : Decoder α) {value : Json} (present : value ≠ .null) :
    decoder.option.ofJson value = (decoder.ofJson value).map some := by
  cases value with
  | null => exact absurd rfl present
  | _ => rfl

theorem natural_ofNat {typeName : String} {bits number : Nat}
    (bounded : number < Power.ofTwo bits) :
    (natural typeName bits).ofJson (.ofNat number) = .ok number := by
  have lower : (0 : Int) ≤ number := Int.natCast_nonneg _
  have upper : (number : Int) ≤ (Power.ofTwo bits - 1 : Nat) :=
    Int.ofNat_le.mpr (Nat.le_pred_of_lt bounded)
  rw [ofJson, natural, Json.ofNat, Json.toDocument, integer, if_pos ⟨lower, upper⟩]
  rfl

theorem items_eq_ok_iff {decoder : Decoder α} {documents : List Document} {values : List α} :
    items decoder documents = .ok values ↔ documents.map decoder = values.map .ok := by
  induction documents generalizing values with
  | nil => simp [items, eq_comm]
  | cons document rest ih =>
      simp only [items, except_bind_eq_ok_iff, ih]
      constructor
      · rintro ⟨value, read, values, readRest, same⟩
        cases same
        rw [List.map_cons, List.map_cons, read, readRest]
      · intro read
        cases values with
        | nil => cases read
        | cons value values =>
            rw [List.map_cons, List.map_cons, List.cons.injEq] at read
            exact ⟨value, read.1, values, read.2, rfl⟩

theorem list_ofJson_eq_ok_iff {decoder : Decoder α} {value : Json} {values : List α} :
    decoder.list.ofJson value = .ok values ↔
      ∃ items, value = .array items ∧ items.map decoder.ofJson = values.map .ok := by
  cases value with
  | array items =>
      rw [ofJson, Json.toDocument, list, items_eq_ok_iff, Json.itemsToDocuments_eq_map,
        List.map_map]
      simp only [Json.array.injEq, exists_eq_left']
      rfl
  | _ =>
      constructor
      · intro read
        cases read
      · rintro ⟨items, same, _⟩
        cases same

/-- Decoding a list again after one of its items has been exchanged. -/
theorem list_ofJson_set {decoder : Decoder α} {items : List Json} {values : List α}
    {position : Nat} {item : Json} {value : α}
    (decoded : decoder.list.ofJson (.array items) = .ok values)
    (decodedItem : decoder.ofJson item = .ok value) :
    decoder.list.ofJson (.array (items.set position item)) =
      .ok (values.set position value) := by
  obtain ⟨_, same, read⟩ := list_ofJson_eq_ok_iff.mp decoded
  cases same
  refine list_ofJson_eq_ok_iff.mpr ⟨_, rfl, ?_⟩
  rw [List.map_set, List.map_set, read, decodedItem]

/-- Each item of a list is decoded as the value at its position. -/
theorem ofJson_getElem?_of_list {decoder : Decoder α} {items : List Json} {values : List α}
    {position : Nat} {item : Json}
    (decoded : decoder.list.ofJson (.array items) = .ok values)
    (itemAt : items[position]? = some item) :
    ∃ value, values[position]? = some value ∧ decoder.ofJson item = .ok value := by
  obtain ⟨_, same, read⟩ := list_ofJson_eq_ok_iff.mp decoded
  cases same
  have both := congrArg (·[position]?) read
  simp only [List.getElem?_map, itemAt, Option.map_some] at both
  obtain ⟨value, valueAt, readItem⟩ := Option.map_eq_some_iff.mp both.symm
  exact ⟨value, valueAt, readItem.symm⟩

theorem list_ofJson_map {decoder : Decoder α} {encode : α → Json} {values : List α}
    (back : ∀ value ∈ values, decoder.ofJson (encode value) = .ok value) :
    decoder.list.ofJson (.array (values.map encode)) = .ok values := by
  refine list_ofJson_eq_ok_iff.mpr ⟨_, rfl, ?_⟩
  rw [List.map_map]
  exact List.map_congr_left back

theorem members_map {decoder : Decoder α} {encode : α → Json} {entries : List (String × α)}
    (back : ∀ value, decoder.ofJson (encode value) = .ok value) :
    members decoder (Json.membersToDocuments
      (entries.map fun entry => (entry.1, encode entry.2))) = .ok entries := by
  induction entries with
  | nil => rfl
  | cons entry entries ih =>
      have read : decoder (encode entry.2).toDocument = .ok entry.2 := back entry.2
      rw [List.map_cons, Json.membersToDocuments, members, read, ih]
      rfl

theorem dictionary_ofJson_map {decoder : Decoder α} {encode : α → Json}
    {dictionary : Dictionary α}
    (back : ∀ value, decoder.ofJson (encode value) = .ok value) :
    decoder.dictionary.ofJson
        (.object (dictionary.entries.map fun entry => (entry.1, encode entry.2))) =
      .ok dictionary := by
  rw [ofJson, Json.toDocument, Decoder.dictionary, members_map back]
  exact congrArg Except.ok
    (Dictionary.ext (Members.ofList_of_ascending dictionary.ascending))

end GatewayAcl.Decoder
