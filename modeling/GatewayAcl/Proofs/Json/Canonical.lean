import GatewayAcl.Json.Decoder
import GatewayAcl.Proofs.Members
import GatewayAcl.Proofs.Results

/-!
# Values and their documents

A value reads back from its own document, on which no fault is met, provided that
the members of its objects are in order.  Every value that is read from a document
has them in order, so this is no restriction on what is met in practice.
-/

namespace GatewayAcl

namespace Json

theorem Canonical.item {items : List Json} (canonical : Canonical (.array items)) :
    ∀ item ∈ items, item.Canonical := by
  cases canonical with
  | array _ each => exact each

theorem Canonical.ascending {members : List (String × Json)}
    (canonical : Canonical (.object members)) : Members.Ascending members := by
  cases canonical with
  | object _ ascending _ => exact ascending

theorem Canonical.entry {members : List (String × Json)}
    (canonical : Canonical (.object members)) : ∀ entry ∈ members, entry.2.Canonical := by
  cases canonical with
  | object _ _ each => exact each

theorem Canonical.lookup {members : List (String × Json)} {name : String} {value : Json}
    (canonical : Canonical (.object members)) (found : members.lookup name = some value) :
    value.Canonical :=
  canonical.entry _ (Members.mem_of_lookup found)

theorem Canonical.record {members : List (String × Json)}
    (each : ∀ entry ∈ members, entry.2.Canonical) : (Json.record members).Canonical :=
  .object _ (Members.ascending_ofList members) fun entry member =>
    each entry (Members.mem_ofList member)

theorem Canonical.single {name : String} {value : Json} (canonical : value.Canonical) :
    (Json.object [(name, value)]).Canonical :=
  .object _ (List.pairwise_singleton _ _) (by simpa using canonical)

theorem Canonical.pair {first second : String} {value value' : Json}
    (canonical : value.Canonical) (canonical' : value'.Canonical) :
    (Json.record [(first, value), (second, value')]).Canonical :=
  .record (by simpa using ⟨canonical, canonical'⟩)

theorem Canonical.optionalMember {α : Type} {name : String} {encode : α → Json}
    {value? : Option α} (each : ∀ value, (encode value).Canonical) :
    ∀ entry ∈ optionalMember name encode value?, entry.2.Canonical := by
  intro entry member
  cases value? with
  | none => cases member
  | some value =>
      cases List.mem_singleton.mp member
      exact each value

mutual

/-- A canonical value is what its document reads as. -/
theorem toJson_toDocument :
    ∀ {json : Json}, json.Canonical → json.toDocument.toJson = .ok json
  | .null, _ => rfl
  | .bool _, _ => rfl
  | .number _, _ => rfl
  | .string _, _ => rfl
  | .array items, canonical => by
      rw [toDocument, Document.toJson, itemsToJson_itemsToDocuments canonical.item]
      rfl
  | .object members, canonical => by
      rw [toDocument, Document.toJson, membersToJson_membersToDocuments canonical.entry]
      exact congrArg (Except.ok ∘ Json.object) (Members.ofList_of_ascending canonical.ascending)

theorem itemsToJson_itemsToDocuments :
    ∀ {items : List Json}, (∀ item ∈ items, item.Canonical) →
      Document.itemsToJson (itemsToDocuments items) = .ok items
  | [], _ => rfl
  | item :: items, each => by
      rw [itemsToDocuments, Document.itemsToJson,
        toJson_toDocument (each item List.mem_cons_self),
        itemsToJson_itemsToDocuments fun other member =>
          each other (List.mem_cons_of_mem item member)]
      rfl

theorem membersToJson_membersToDocuments :
    ∀ {members : List (String × Json)}, (∀ entry ∈ members, entry.2.Canonical) →
      Document.membersToJson (membersToDocuments members) = .ok members
  | [], _ => rfl
  | (name, value) :: members, each => by
      rw [membersToDocuments, Document.membersToJson, except_bind_ok,
        toJson_toDocument (each (name, value) List.mem_cons_self),
        membersToJson_membersToDocuments fun other member =>
          each other (List.mem_cons_of_mem _ member)]
      rfl

end

mutual

@[simp] theorem skipFault_toDocument : ∀ json : Json, json.toDocument.skipFault = none
  | .null => rfl
  | .bool _ => rfl
  | .number _ => rfl
  | .string _ => rfl
  | .array items => itemsSkipFault_itemsToDocuments items
  | .object members => membersSkipFault_membersToDocuments members

theorem itemsSkipFault_itemsToDocuments :
    ∀ items : List Json, Document.itemsSkipFault (itemsToDocuments items) = none
  | [] => rfl
  | item :: items => by
      rw [itemsToDocuments, Document.itemsSkipFault, skipFault_toDocument item,
        itemsSkipFault_itemsToDocuments items]

theorem membersSkipFault_membersToDocuments :
    ∀ members : List (String × Json),
      Document.membersSkipFault (membersToDocuments members) = none
  | [] => rfl
  | (_, value) :: members => by
      rw [membersToDocuments, Document.membersSkipFault, skipFault_toDocument value,
        membersSkipFault_membersToDocuments members]

end

@[simp] theorem itemsToDocuments_eq_map (items : List Json) :
    itemsToDocuments items = items.map toDocument := by
  induction items with
  | nil => rfl
  | cons item items ih => rw [itemsToDocuments, ih, List.map_cons]

end Json

namespace Document

mutual

theorem canonical_of_toJson :
    ∀ {document : Document} {json : Json}, document.toJson = .ok json → json.Canonical
  | .null, _, read => by cases read; exact .null
  | .bool value, _, read => by cases read; exact .bool value
  | .number value, _, read => by cases read; exact .number value
  | .string value, _, read => by cases read; exact .string value
  | .array items, _, read => by
      rw [toJson] at read
      obtain ⟨values, readItems, rfl⟩ := except_map_eq_ok_iff.mp read
      exact .array values (canonical_of_itemsToJson readItems)
  | .object members, _, read => by
      rw [toJson] at read
      obtain ⟨entries, readMembers, rfl⟩ := except_map_eq_ok_iff.mp read
      exact .record (canonical_of_membersToJson readMembers)
  | .fault _ _ _, _, read => by cases read

theorem canonical_of_itemsToJson :
    ∀ {items : List Document} {values : List Json}, itemsToJson items = .ok values →
      ∀ value ∈ values, value.Canonical
  | [], _, read => by cases read; simp
  | item :: items, _, read => by
      rw [itemsToJson] at read
      obtain ⟨value, readItem, readRest⟩ := except_bind_eq_ok_iff.mp read
      obtain ⟨values, readItems, same⟩ := except_bind_eq_ok_iff.mp readRest
      cases same
      exact List.forall_mem_cons.mpr
        ⟨canonical_of_toJson readItem, canonical_of_itemsToJson readItems⟩

theorem canonical_of_membersToJson :
    ∀ {members : List (Except Json.TextFault String × Document)}
      {entries : List (String × Json)}, membersToJson members = .ok entries →
      ∀ entry ∈ entries, entry.2.Canonical
  | [], _, read => by cases read; simp
  | (name, value) :: members, _, read => by
      rw [membersToJson] at read
      obtain ⟨known, _, readRest⟩ := except_bind_eq_ok_iff.mp read
      obtain ⟨first, readValue, readRest⟩ := except_bind_eq_ok_iff.mp readRest
      obtain ⟨entries, readMembers, same⟩ := except_bind_eq_ok_iff.mp readRest
      cases same
      exact List.forall_mem_cons.mpr
        ⟨canonical_of_toJson readValue, canonical_of_membersToJson readMembers⟩

end

end Document

end GatewayAcl
