import GatewayAcl.Proofs.Json.Records
import GatewayAcl.Rbac.Wire

/-!
# Access filters survive the wire

A filter that has been written as JSON reads back as itself, principals of any
depth included, and what is written is canonical.
-/

namespace GatewayAcl

theorem Action.decoder_encode (action : Action) :
    Action.decoder.ofJson action.encode = .ok action := by
  cases action <;> rfl

namespace Rbac

theorem word_ofNat (number : UInt32) : word.ofJson (.ofNat number.toNat) = .ok number := by
  have read : Decoder.u32.ofJson (.ofNat number.toNat) = .ok number.toNat :=
    Decoder.natural_ofNat number.toNat_lt
  rw [Decoder.ofJson] at read
  rw [Decoder.ofJson, word, read]
  exact congrArg Except.ok UInt32.ofNat_toNat

namespace CidrRange

theorem decoder_encode (range : CidrRange) : shape.decoder.ofJson range.encode = .ok range :=
  Shape.decoder_pair (by decide) rfl (word_ofNat range.prefixLength)

theorem canonical_encode (range : CidrRange) : range.encode.Canonical :=
  .pair (.string _) (.number _)

end CidrRange

namespace StringMatcher

theorem decoder_encode (matcher : StringMatcher) :
    decoder.ofJson matcher.encode = .ok matcher := by
  cases matcher <;> rfl

theorem canonical_encode (matcher : StringMatcher) : matcher.encode.Canonical := by
  cases matcher <;> exact .single (.string _)

end StringMatcher

namespace HeaderMatcher

theorem decoder_encode (matcher : HeaderMatcher) :
    shape.decoder.ofJson matcher.encode = .ok matcher :=
  Shape.decoder_pair (by decide) rfl matcher.value.decoder_encode

theorem canonical_encode (matcher : HeaderMatcher) : matcher.encode.Canonical :=
  .pair (.string _) matcher.value.canonical_encode

end HeaderMatcher

namespace Principal

theorem variant_matcher_name (matcher : Matcher) :
    Decoder.variant Kind.known matcher.name = .ok (.address matcher) := by
  cases matcher <;> rfl

/-- A principal is decoded by what its one member is named. -/
theorem decode_single {tag : String} {kind : Kind}
    (known : Decoder.variant Kind.known tag = .ok kind) (inner : Json) :
    decode (Json.object [(tag, inner)]).toDocument =
      match kind with
      | .address matcher =>
          (CidrRange.shape.decoder.ofJson inner).map (Principal.address matcher)
      | .all => (decodeSet inner.toDocument).map .all
      | .any => (decodeSet inner.toDocument).map .any
      | .not => (decode inner.toDocument).map .not
      | .header => (HeaderMatcher.shape.decoder.ofJson inner).map .header := by
  rw [Json.toDocument, Json.membersToDocuments, Json.membersToDocuments, decode]
  simp only [except_mapError_ok, except_bind_ok, known]
  cases kind <;> rfl

/-- A set of principals is read if its list is. -/
theorem decodeSet_of_items {items : List Json} {ids : List Principal}
    (read : decodeItems (Json.itemsToDocuments items) = .ok ids) :
    decodeSet (Json.object [("ids", .array items)]).toDocument = .ok ids := by
  simp [Json.toDocument, Json.membersToDocuments, decodeSet, decodeSetMembers, decodeIds,
    -Json.itemsToDocuments_eq_map, read]

mutual

theorem decode_encode : ∀ id : Principal, decode (encode id).toDocument = .ok id
  | .address matcher range => by
      rw [encode, decode_single (variant_matcher_name matcher)]
      simp only [range.decoder_encode, Except.map]
  | .all ids => by
      have read := decodeSet_of_items (decodeItems_encodeList ids)
      rw [encode, decode_single (by rfl : Decoder.variant Kind.known "and_ids" = .ok .all)]
      simp only [read, Except.map]
  | .any ids => by
      have read := decodeSet_of_items (decodeItems_encodeList ids)
      rw [encode, decode_single (by rfl : Decoder.variant Kind.known "or_ids" = .ok .any)]
      simp only [read, Except.map]
  | .not id => by
      have read := decode_encode id
      rw [encode, decode_single (by rfl : Decoder.variant Kind.known "not_id" = .ok .not)]
      simp only [read, Except.map]
  | .header matcher => by
      rw [encode, decode_single (by rfl : Decoder.variant Kind.known "header" = .ok .header)]
      simp only [matcher.decoder_encode, Except.map]

theorem decodeItems_encodeList : ∀ ids : List Principal,
    decodeItems (Json.itemsToDocuments (encodeList ids)) = .ok ids
  | [] => rfl
  | id :: ids => by
      rw [encodeList, Json.itemsToDocuments, decodeItems, decode_encode id,
        decodeItems_encodeList ids]
      rfl

end

@[simp] theorem encodeList_eq_map (ids : List Principal) : encodeList ids = ids.map encode := by
  induction ids with
  | nil => rfl
  | cons id ids ih => rw [encodeList, ih, List.map_cons]

mutual

theorem canonical_encode : ∀ id : Principal, (encode id).Canonical
  | .address matcher range => by
      rw [encode]
      exact .single range.canonical_encode
  | .all ids => by
      rw [encode]
      exact .single (.single (.array _ (canonical_encodeList ids)))
  | .any ids => by
      rw [encode]
      exact .single (.single (.array _ (canonical_encodeList ids)))
  | .not id => by
      rw [encode]
      exact .single (canonical_encode id)
  | .header matcher => by
      rw [encode]
      exact .single matcher.canonical_encode

theorem canonical_encodeList : ∀ ids : List Principal, ∀ json ∈ encodeList ids, json.Canonical
  | [] => by simp [encodeList]
  | id :: ids => by
      rw [encodeList]
      exact List.forall_mem_cons.mpr ⟨canonical_encode id, canonical_encodeList ids⟩

end

end Principal

namespace Permission

theorem decoder_encode (permission : Permission) :
    decoder.ofJson permission.encode = .ok permission := by
  cases permission with
  | any value => rfl

theorem canonical_encode (permission : Permission) : permission.encode.Canonical := by
  cases permission with
  | any value => exact .single (.bool value)

end Permission

namespace Policy

theorem decoder_encode (policy : Policy) : shape.decoder.ofJson policy.encode = .ok policy := by
  rw [encode, Principal.encodeList_eq_map]
  exact Shape.decoder_pair (by decide)
    (Decoder.list_ofJson_map fun permission _ => permission.decoder_encode)
    (Decoder.list_ofJson_map fun id _ => id.decode_encode)

theorem canonical_encode (policy : Policy) : policy.encode.Canonical := by
  apply Json.Canonical.pair
  · exact .array _ (List.forall_mem_map.mpr fun permission _ => permission.canonical_encode)
  · exact .array _ (Principal.canonical_encodeList _)

end Policy

namespace Rules

theorem decoder_encode (rules : Rules) : shape.decoder.ofJson rules.encode = .ok rules :=
  Shape.decoder_pair (by decide) rules.action.decoder_encode
    (Decoder.dictionary_ofJson_map Policy.decoder_encode)

theorem canonical_encode (rules : Rules) : rules.encode.Canonical := by
  apply Json.Canonical.pair
  · exact .string _
  · refine .object _ (List.pairwise_map.mpr rules.policies.ascending) ?_
    exact List.forall_mem_map.mpr fun entry _ => entry.2.canonical_encode

end Rules

namespace Config

theorem orderly : shape.Orderly :=
  .triple (by decide) (by intros; rfl) (by intros; rfl) (by intros; rfl)

theorem member?_encode (config : Config) :
    config.encode.member? "@type" = some (.string config.typeUrl) ∧
      config.encode.member? "stat_prefix" = config.statPrefix.map .string ∧
      config.encode.member? "rules" = some config.rules.encode := by
  obtain ⟨typeUrl, statPrefix, rules⟩ := config
  cases statPrefix with
  | none => exact ⟨rfl, rfl, rfl⟩
  | some text => exact ⟨rfl, rfl, rfl⟩

theorem decoder_encode (config : Config) : shape.decoder.ofJson config.encode = .ok config := by
  have ⟨typeUrl, statPrefix, rules⟩ := config.member?_encode
  apply Shape.Reads.decoder orderly (by decide)
  refine .required typeUrl rfl ?_
  refine .optional statPrefix (by simp) (fun _ => rfl) rfl ?_
  refine .required rules config.rules.decoder_encode ?_
  exact .nil config

theorem canonical_encode (config : Config) : config.encode.Canonical := by
  apply Json.Canonical.record
  intro entry member
  rcases List.mem_append.mp member with front | last
  · rcases List.mem_cons.mp front with rfl | optional
    · exact .string _
    · exact Json.Canonical.optionalMember Json.Canonical.string entry optional
  · cases List.mem_singleton.mp last
    exact config.rules.canonical_encode

end Config

namespace Filter

theorem decoder_encode (filter : Filter) : shape.decoder.ofJson filter.encode = .ok filter :=
  Shape.decoder_pair (by decide) rfl filter.config.decoder_encode

theorem canonical_encode (filter : Filter) : filter.encode.Canonical :=
  .pair (.string _) filter.config.canonical_encode

end Filter

end Rbac

end GatewayAcl
