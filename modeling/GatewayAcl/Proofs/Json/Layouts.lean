import GatewayAcl.Proofs.Json.Notations
import GatewayAcl.Proofs.Json.Restoring

/-!
# Layouts of records

A shape says how a record is read and an encoder how it is written.  A layout says of both
that they treat the record part by part, each part under a name of its own: what is read
under that name determines the part and nothing else, and what is written under it depends
on the part only.  So a record is read as it was written if each of its parts is.
-/

namespace GatewayAcl

variable {α β : Type}

/-- One part of a record: the name it goes by, what it means that something or nothing is
given under that name, and what is written under it. -/
structure Part (α : Type) where
  name : String
  Reads : Option Json → α → Prop
  write : α → Option Json

namespace Part

/-- A part that has to be given. -/
def required (name : String) (decoder : Decoder β) (encode : β → Json) (get : α → β) : Part α where
  name := name
  Reads given record := ∃ json, given = some json ∧ decoder.ofJson json = .ok (get record)
  write record := some (encode (get record))

/-- A part that is always written, and has a certain value if it is not given. -/
def defaulted (name : String) (decoder : Decoder β) (encode : β → Json) (absent : β)
    (get : α → β) : Part α where
  name := name
  Reads given record := decoder.member absent given = .ok (get record)
  write record := some (encode (get record))

/-- A part that there may be none of.  Then null or nothing is given, and nothing is
written. -/
def optional (name : String) (decoder : Decoder β) (encode : β → Json) (get : α → Option β) :
    Part α where
  name := name
  Reads given record := decoder.option.member none given = .ok (get record)
  write record := (get record).map encode

/-- The members that are written for a part. -/
def members (part : Part α) (record : α) : List (String × Json) :=
  Json.optionalMember part.name id (part.write record)

section Kinds

variable (name : String) (decoder : Decoder β) (encode : β → Json) (absent : β) (get : α → β)
  (get? : α → Option β) (record : α)

@[simp] theorem name_required : (required name decoder encode get).name = name := rfl

@[simp] theorem name_defaulted : (defaulted name decoder encode absent get).name = name := rfl

@[simp] theorem name_optional : (optional name decoder encode get?).name = name := rfl

@[simp] theorem reads_required (given : Option Json) :
    (required name decoder encode get).Reads given record ↔
      ∃ json, given = some json ∧ decoder.ofJson json = .ok (get record) := Iff.rfl

@[simp] theorem reads_defaulted (given : Option Json) :
    (defaulted name decoder encode absent get).Reads given record ↔
      decoder.member absent given = .ok (get record) := Iff.rfl

@[simp] theorem reads_optional (given : Option Json) :
    (optional name decoder encode get?).Reads given record ↔
      decoder.option.member none given = .ok (get? record) := Iff.rfl

@[simp] theorem members_required :
    (required name decoder encode get).members record = [(name, encode (get record))] := rfl

@[simp] theorem members_defaulted :
    (defaulted name decoder encode absent get).members record = [(name, encode (get record))] :=
  rfl

@[simp] theorem members_optional :
    (optional name decoder encode get?).members record =
      Json.optionalMember name encode (get? record) := by
  cases found : get? record with
  | none => simp [members, optional, found, Json.optionalMember]
  | some value => simp [members, optional, found, Json.optionalMember]

end Kinds

/-- What is written for a part is read as the part again, and is canonical. -/
structure Restored (part : Part α) (record : α) : Prop where
  back : part.Reads (part.write record) record
  canonical : ∀ json ∈ part.write record, json.Canonical

/-- A part survives being written, whatever it has been read from. -/
def Restores (part : Part α) (record : α) : Prop :=
  ∀ given : Option Json, (∀ json ∈ given, json.Canonical) → part.Reads given record →
    part.Restored record

theorem restores_required {name : String} {decoder : Decoder β} {encode : β → Json}
    {get : α → β} {record : α} (restores : decoder.Restores encode (get record)) :
    (required name decoder encode get).Restores record := by
  intro given canonical read
  rcases read with ⟨json, isGiven, readJson⟩
  have restored := restores json (canonical json isGiven) readJson
  constructor
  · exact ⟨_, rfl, restored.back⟩
  · intro written isWritten
    cases isWritten
    exact restored.canonical

/-- What a part is if it is not given has to be something that can be given, too. -/
theorem restores_defaulted {name : String} {decoder : Decoder β} {encode : β → Json}
    {absent : β} {get : α → β} {record : α} {fallback : Json} (canonical : fallback.Canonical)
    (isAbsent : decoder.ofJson fallback = .ok absent)
    (restores : decoder.Restores encode (get record)) :
    (defaulted name decoder encode absent get).Restores record := by
  intro given canonicalGiven read
  -- If nothing is given, the fallback is what the part might have been read from.
  have restored : ∃ json, decoder.Restored encode (get record) json := by
    cases given with
    | none => exact ⟨fallback, restores fallback canonical (isAbsent.trans read)⟩
    | some json => exact ⟨json, restores json (canonicalGiven json rfl) read⟩
  rcases restored with ⟨_, restored⟩
  constructor
  · exact restored.back
  · intro written isWritten
    cases isWritten
    exact restored.canonical

/-- A record whose members all may be left out is what an object without members holds. -/
theorem restores_defaulted_of_empty {name : String} {decoder : Decoder β} {encode : β → Json}
    {absent : β} {get : α → β} {record : α} (isAbsent : decoder.ofJson (.object []) = .ok absent)
    (restores : decoder.Restores encode (get record)) :
    (defaulted name decoder encode absent get).Restores record :=
  restores_defaulted (.object [] Members.ascending_nil (List.forall_mem_nil _)) isAbsent restores

theorem restores_optional_of_none {name : String} {decoder : Decoder β} {encode : β → Json}
    {get : α → Option β} {record : α} (nothing : get record = none) :
    (optional name decoder encode get).Restores record := by
  intro given canonical read
  have notWritten : (optional name decoder encode get).write record = none :=
    congrArg (Option.map encode) nothing
  constructor
  · rw [notWritten, reads_optional, nothing]
    rfl
  · rw [notWritten]
    exact nofun

theorem restores_optional {name : String} {decoder : Decoder β} {encode : β → Json}
    {get : α → Option β} {record : α}
    (each : ∀ value, get record = some value → decoder.Restores encode value) :
    (optional name decoder encode get).Restores record := by
  intro given canonical read
  cases found : get record with
  | none => exact restores_optional_of_none found given canonical read
  | some value =>
      have isWritten : (optional name decoder encode get).write record = some (encode value) :=
        congrArg (Option.map encode) found
      rw [reads_optional, found, Decoder.member_option_eq_ok_iff] at read
      cases told : Json.unlessNull given with
      | none =>
          rw [told] at read
          cases read
      | some json =>
          rw [told, Option.rel_some_some] at read
          rcases Json.unlessNull_eq_some_iff.mp told with ⟨isGiven, notNull⟩
          have restored := each value found json (canonical json isGiven) read
          constructor
          · rw [isWritten, reads_optional, found, Decoder.member_option_eq_ok_iff,
              Json.unlessNull_some (restored.present notNull), Option.rel_some_some]
            exact restored.back
          · rw [isWritten]
            intro written same
            cases same
            exact restored.canonical

theorem restores_optional_of_exact {name : String} {decoder : Decoder β} {encode : β → Json}
    {get : α → Option β} {record : α} (exact : decoder.Exact encode) :
    (optional name decoder encode get).Restores record :=
  restores_optional fun value _ => exact.restores value

theorem mem_members {part : Part α} {record : α} {entry : String × Json}
    (member : entry ∈ part.members record) :
    entry.1 = part.name ∧ part.write record = some entry.2 := by
  rw [members] at member
  cases written : part.write record with
  | none =>
      rw [written] at member
      cases member
  | some json =>
      rw [written] at member
      cases List.mem_singleton.mp member
      exact ⟨rfl, rfl⟩

theorem lookup_members (part : Part α) (record : α) (name : String) :
    (part.members record).reverse.lookup name =
      if name = part.name then part.write record else none := by
  rw [members]
  cases part.write record with
  | none => simp [Json.optionalMember]
  | some json =>
      by_cases same : name = part.name
      · simp [Json.optionalMember, same]
      · simp [Json.optionalMember, same, Members.lookup_cons_of_ne same]

/-- Among the members of several parts, what is written for a part is found under its
name. -/
theorem lookup_flatMap_members {parts : List (Part α)} (distinct : (parts.map Part.name).Nodup)
    (record : α) :
    ∀ part ∈ parts,
      (parts.flatMap (·.members record)).reverse.lookup part.name = part.write record := by
  induction parts with
  | nil =>
      intro part member
      cases member
  | cons head parts ih =>
      rcases List.nodup_cons.mp distinct with ⟨fresh, distinctRest⟩
      intro part member
      rw [List.flatMap_cons, List.reverse_append, List.lookup_append, lookup_members]
      rcases List.mem_cons.mp member with isHead | behind
      · have notBehind : (parts.flatMap (·.members record)).reverse.lookup part.name = none := by
          rw [List.lookup_eq_none_iff]
          intro entry entryMember
          rcases List.mem_flatMap.mp (List.mem_reverse.mp entryMember) with
            ⟨other, otherMember, written⟩
          have differs : head.name ≠ other.name := fun same =>
            fresh (same ▸ List.mem_map_of_mem otherMember)
          rw [isHead, (mem_members written).1]
          exact bne_iff_ne.mpr differs
        rw [notBehind, Option.none_or, isHead, if_pos rfl]
      · have differs : part.name ≠ head.name := fun same =>
          fresh (same ▸ List.mem_map_of_mem behind)
        rw [ih distinctRest part behind, if_neg differs, Option.or_none]

end Part

/-- A shape and an encoder treat records part by part, and agree on the parts. -/
structure Layout (shape : Shape α) (encode : α → Json) (parts : List (Part α)) : Prop where
  orderly : shape.Orderly
  names : parts.map Part.name = shape.names
  assembles (given : String → Option Json) (record : α) :
    Shape.Assembles given shape.fields shape.blank record ↔
      ∀ part ∈ parts, part.Reads (given part.name) record
  encode_eq (record : α) : encode record = .record (parts.flatMap (·.members record))

namespace Layout

variable {shape : Shape α} {encode : α → Json} {parts : List (Part α)}

/-- A record is decoded from a value exactly if the notation is one that the shape puts up
with, and each part is what the value gives for it. -/
theorem decoder_eq_ok_iff (layout : Layout shape encode parts) {json : Json}
    (canonical : json.Canonical) {record : α} :
    shape.decoder.ofJson json = .ok record ↔
      shape.Fits json ∧ ∀ part ∈ parts, part.Reads (shape.given json part.name) record := by
  rw [Shape.decoder_eq_ok_iff layout.orderly canonical, layout.assembles]

/-- A record that puts up with other members is decoded from an object exactly if each part
is what its own member says. -/
theorem decoder_object_eq_ok_iff (layout : Layout shape encode parts)
    (lenient : shape.strictness ≠ .strict) {members : List (String × Json)}
    (ascending : Members.Ascending members) {record : α} :
    shape.decoder.ofJson (.object members) = .ok record ↔
      ∀ part ∈ parts, part.Reads (members.lookup part.name) record := by
  rw [Shape.decoder_object_iff_of_lenient layout.orderly lenient ascending, layout.assembles]

/-- For each of its parts, an encoded record gives what is written for the part. -/
theorem given_encode (layout : Layout shape encode parts) (record : α) :
    ∀ part ∈ parts, shape.given (encode record) part.name = part.write record := by
  have distinct : (parts.map Part.name).Nodup := layout.names ▸ layout.orderly.distinct
  intro part member
  rw [layout.encode_eq, Json.record, Shape.given, Members.lookup_ofList,
    Part.lookup_flatMap_members distinct record part member]

theorem fits_encode (layout : Layout shape encode parts) (record : α) :
    shape.Fits (encode record) := by
  rw [layout.encode_eq, Json.record, Shape.fits_object_iff]
  intro entry member
  rcases List.mem_flatMap.mp (Members.mem_ofList member) with ⟨part, partMember, written⟩
  rw [(Part.mem_members written).1]
  exact .inl (layout.names ▸ List.mem_map_of_mem partMember)

theorem canonical_encode (layout : Layout shape encode parts) {record : α}
    (each : ∀ part ∈ parts, ∀ json ∈ part.write record, json.Canonical) :
    (encode record).Canonical := by
  rw [layout.encode_eq]
  apply Json.Canonical.record
  intro entry member
  rcases List.mem_flatMap.mp member with ⟨part, partMember, written⟩
  exact each part partMember _ (Part.mem_members written).2

theorem decoder_encode (layout : Layout shape encode parts) {record : α}
    (back : ∀ part ∈ parts, part.Reads (part.write record) record) :
    shape.decoder.ofJson (encode record) = .ok record := by
  have fits := layout.fits_encode record
  have assembles :
      Shape.Assembles (shape.given (encode record)) shape.fields shape.blank record := by
    rw [layout.assembles]
    intro part member
    rw [layout.given_encode record part member]
    exact back part member
  rw [layout.encode_eq, Json.record] at fits assembles ⊢
  apply (Shape.decoder_object_eq_ok_iff layout.orderly (Members.ascending_ofList _)).mpr
  exact ⟨Shape.fits_object_iff.mp fits, assembles⟩

theorem restores (layout : Layout shape encode parts) {record : α}
    (each : ∀ part ∈ parts, part.Restores record) :
    shape.decoder.Restores encode record := by
  intro json canonical decoded
  rcases (layout.decoder_eq_ok_iff canonical).mp decoded with ⟨_, reads⟩
  have restored : ∀ part ∈ parts, part.Restored record := by
    intro part member
    apply each part member _ _ (reads part member)
    intro value found
    exact Shape.canonical_given canonical found
  constructor
  · exact layout.decoder_encode fun part member => (restored part member).back
  · exact layout.canonical_encode fun part member => (restored part member).canonical
  · intro _ isNull
    rw [layout.encode_eq] at isNull
    cases isNull

end Layout

end GatewayAcl
