import GatewayAcl.Json.Shape
import GatewayAcl.Proofs.Json.Decoders

/-!
# What records are decoded as

A record is decoded from an object by entering its members as they are met.  If
the fields of the shape may be entered in any order, it does not matter in which
order the members stand: the record is the one that results from looking up the
fields in the order of the shape.  So each field is what its own member says.
-/

namespace GatewayAcl

variable {α β γ δ : Type}

/-- Two fields lead to the same record whichever is entered first. -/
def Field.Commutes (left right : Field α) : Prop :=
  ∀ first second record result,
    (left.enter first record >>= right.enter second) = .ok result ↔
      (right.enter second record >>= left.enter first) = .ok result

theorem Field.commutes_of_set {left right : String} {absence absence' : Absence}
    {decoder : Decoder β} {decoder' : Decoder γ} {set : α → β → α} {set' : α → γ → α}
    (commute : ∀ record value value',
      set' (set record value) value' = set (set' record value') value) :
    Field.Commutes
      ⟨left, absence, fun document record => (decoder document).map (set record)⟩
      ⟨right, absence', fun document record => (decoder' document).map (set' record)⟩ := by
  intro first second record result
  simp only [except_bind_eq_ok_iff, except_map_eq_ok_iff]
  constructor
  · rintro ⟨_, ⟨value, read, rfl⟩, value', read', rfl⟩
    exact ⟨_, ⟨value', read', rfl⟩, value, read, (commute record value value').symm⟩
  · rintro ⟨_, ⟨value', read', rfl⟩, value, read, rfl⟩
    exact ⟨_, ⟨value, read, rfl⟩, value', read', commute record value value'⟩

/-- What a member that may be left out is decoded as. -/
def Decoder.member (decoder : Decoder β) (absent : β) : Option Json → Except DecodeError β
  | none => .ok absent
  | some json => decoder.ofJson json

theorem Decoder.member_option_object {decoder : Decoder β} {inner : List (String × Json)}
    {value : Option β} :
    decoder.option.member none (some (.object inner)) = .ok value ↔
      ∃ read, decoder.ofJson (.object inner) = .ok read ∧ value = some read := by
  rw [Decoder.member, Decoder.option_ofJson decoder (by simp), except_map_eq_ok_iff]
  simp only [eq_comm]

theorem Decoder.lookup_of_member_json {members : List (String × Json)} {name : String}
    {value : Json} (canonical : (Json.object members).Canonical)
    (read : Decoder.json.option.member none (members.lookup name) = .ok (some value)) :
    members.lookup name = some value := by
  cases found : members.lookup name with
  | none =>
      rw [found] at read
      cases read
  | some given =>
      rw [found, Decoder.member] at read
      by_cases isNull : given = .null
      · subst isNull
        cases read
      · rw [Decoder.option_ofJson _ isNull, Decoder.json_ofJson (canonical.lookup found)] at read
        cases read
        rfl

/-- A member that is given exactly if there is a value reads back as that value. -/
theorem Decoder.member_option_map {decoder : Decoder β} {encode : β → Json}
    (present : ∀ value, encode value ≠ .null)
    (back : ∀ value, decoder.ofJson (encode value) = .ok value) (value? : Option β) :
    decoder.option.member none (value?.map encode) = .ok value? := by
  cases value? with
  | none => rfl
  | some value =>
      rw [Option.map_some, Decoder.member, Decoder.option_ofJson decoder (present value), back]
      rfl

namespace Shape

/-- The fields have names of their own and may be entered in any order. -/
structure Orderly (shape : Shape α) : Prop where
  distinct : shape.names.Nodup
  commutes : shape.fields.Pairwise Field.Commutes

/-- Two fields of their own names are orderly if what they set in the record commutes. -/
theorem Orderly.pair {title first second : String} {strictness : Strictness}
    {absence absence' : Absence} {decoder : Decoder β} {decoder' : Decoder γ}
    {set : α → β → α} {set' : α → γ → α} {blank : α} (distinct : first ≠ second)
    (commute : ∀ record value value',
      set' (set record value) value' = set (set' record value') value) :
    Orderly ⟨title, strictness,
      [⟨first, absence, fun document record => (decoder document).map (set record)⟩,
        ⟨second, absence', fun document record => (decoder' document).map (set' record)⟩],
      blank⟩ where
  distinct := by simp [names, distinct]
  commutes := by
    simp only [List.pairwise_pair]
    exact Field.commutes_of_set commute

/-- Three fields of their own names are orderly if what any two of them set in the record
commutes. -/
theorem Orderly.triple {title first second third : String} {strictness : Strictness}
    {absence absence' absence'' : Absence} {decoder : Decoder β} {decoder' : Decoder γ}
    {decoder'' : Decoder δ} {set : α → β → α} {set' : α → γ → α} {set'' : α → δ → α} {blank : α}
    (distinct : [first, second, third].Nodup)
    (commute : ∀ record value value',
      set' (set record value) value' = set (set' record value') value)
    (commute' : ∀ record value value'',
      set'' (set record value) value'' = set (set'' record value'') value)
    (commute'' : ∀ record value' value'',
      set'' (set' record value') value'' = set' (set'' record value'') value') :
    Orderly ⟨title, strictness,
      [⟨first, absence, fun document record => (decoder document).map (set record)⟩,
        ⟨second, absence', fun document record => (decoder' document).map (set' record)⟩,
        ⟨third, absence'', fun document record => (decoder'' document).map (set'' record)⟩],
      blank⟩ where
  distinct := distinct
  commutes := by
    simp only [List.pairwise_cons, List.forall_mem_cons, List.not_mem_nil, false_implies,
      implies_true, List.Pairwise.nil, and_true]
    exact ⟨⟨Field.commutes_of_set commute, Field.commutes_of_set commute'⟩,
      Field.commutes_of_set commute''⟩

/-- Enters the fields that are given, in the order of the shape. -/
def enterGiven (given : String → Option Json) :
    List (Field α) → α → Except DecodeError α
  | [], record => .ok record
  | field :: fields, record =>
      match given field.name with
      | none => enterGiven given fields record
      | some json => do
          let record ← field.enter json.toDocument record
          enterGiven given fields record

theorem enterGiven_congr {given given' : String → Option Json} {fields : List (Field α)}
    (same : ∀ field ∈ fields, given field.name = given' field.name) :
    enterGiven given fields = enterGiven given' fields := by
  induction fields with
  | nil => rfl
  | cons field fields ih =>
      funext record
      simp only [enterGiven, same field List.mem_cons_self,
        ih fun other member => same other (List.mem_cons_of_mem field member)]

theorem enterGiven_of_none {given : String → Option Json} {fields : List (Field α)}
    (absent : ∀ field ∈ fields, given field.name = none) (record : α) :
    enterGiven given fields record = .ok record := by
  induction fields with
  | nil => rfl
  | cons field fields ih =>
      rw [enterGiven, absent field List.mem_cons_self]
      exact ih fun other member => absent other (List.mem_cons_of_mem field member)

/-- Entering a field that may be left out sets what its member is decoded as, which
for an absent member is what the record has there already. -/
theorem enterGiven_defaulted {given : String → Option Json} {name : String}
    {decoder : Decoder β} {set : α → β → α} {fields : List (Field α)} {record result : α}
    (absent : β)
    (entered : enterGiven given (.defaulted name decoder set :: fields) record = .ok result)
    (unchanged : set record absent = record) :
    ∃ value, decoder.member absent (given name) = .ok value ∧
      enterGiven given fields (set record value) = .ok result := by
  rw [enterGiven] at entered
  simp only [Field.defaulted] at entered
  cases found : given name with
  | none =>
      simp only [found] at entered
      exact ⟨absent, rfl, by rwa [unchanged]⟩
  | some json =>
      simp only [found, except_bind_eq_ok_iff, except_map_eq_ok_iff] at entered
      obtain ⟨_, ⟨value, read, rfl⟩, entered⟩ := entered
      exact ⟨value, read, entered⟩

theorem enterGiven_of_member {given : String → Option Json} {name : String}
    {decoder : Decoder β} {set : α → β → α} {fields : List (Field α)} {record result : α}
    {absent value : β} (read : decoder.member absent (given name) = .ok value)
    (entered : enterGiven given fields (set record value) = .ok result)
    (unchanged : set record absent = record) :
    enterGiven given (.defaulted name decoder set :: fields) record = .ok result := by
  rw [enterGiven]
  simp only [Field.defaulted]
  cases found : given name with
  | none =>
      rw [found] at read
      cases read
      rwa [unchanged] at entered
  | some json =>
      rw [found] at read
      simp only [except_bind_eq_ok_iff, except_map_eq_ok_iff]
      exact ⟨set record value, ⟨value, read, rfl⟩, entered⟩

theorem enterGiven_of_required {given : String → Option Json} {name : String}
    {decoder : Decoder β} {set : α → β → α} {fields : List (Field α)} {record result : α}
    {json : Json} {value : β} (found : given name = some json)
    (read : decoder.ofJson json = .ok value)
    (entered : enterGiven given fields (set record value) = .ok result) :
    enterGiven given (.required name decoder set :: fields) record = .ok result := by
  rw [enterGiven]
  simp only [Field.required, found, except_bind_eq_ok_iff, except_map_eq_ok_iff]
  exact ⟨set record value, ⟨value, read, rfl⟩, entered⟩

theorem enterGiven_required {given : String → Option Json} {name : String}
    {decoder : Decoder β} {set : α → β → α} {fields : List (Field α)} {record result : α}
    (present : given name ≠ none)
    (entered : enterGiven given (.required name decoder set :: fields) record = .ok result) :
    ∃ json value, given name = some json ∧ decoder.ofJson json = .ok value ∧
      enterGiven given fields (set record value) = .ok result := by
  have ⟨json, found⟩ := Option.ne_none_iff_exists'.mp present
  rw [enterGiven] at entered
  simp only [Field.required, found, except_bind_eq_ok_iff, except_map_eq_ok_iff] at entered
  have ⟨_, ⟨value, read, isRecord⟩, enteredRest⟩ := entered
  subst isRecord
  exact ⟨json, value, found, read, enteredRest⟩

/-- A field that is given besides others may be entered before them. -/
theorem enterGiven_first {given given' : String → Option Json} {field : Field α} {json : Json}
    (added : given' field.name = some json) (absent : given field.name = none)
    (others : ∀ name, name ≠ field.name → given' name = given name) :
    ∀ {fields : List (Field α)}, (fields.map Field.name).Nodup →
      fields.Pairwise Field.Commutes → field ∈ fields → ∀ {record result : α},
      (enterGiven given' fields record = .ok result ↔
        (field.enter json.toDocument record >>= enterGiven given fields) = .ok result) := by
  intro fields distinct commutes member record result
  induction fields generalizing record with
  | nil => cases member
  | cons head fields ih =>
      obtain ⟨fresh, distinctRest⟩ := List.nodup_cons.mp distinct
      obtain ⟨commutesHead, commutesRest⟩ := List.pairwise_cons.mp commutes
      rcases List.mem_cons.mp member with rfl | behind
      · have sameRest : enterGiven given' fields = enterGiven given fields :=
          enterGiven_congr fun other otherMember => others _ fun equal =>
            fresh (equal ▸ List.mem_map_of_mem otherMember)
        rw [enterGiven, added]
        simp only [sameRest]
        cases field.enter json.toDocument record with
        | error error => rfl
        | ok middle => simp only [except_bind_ok, enterGiven, absent]
      · have differs : head.name ≠ field.name := fun equal =>
          fresh (equal ▸ List.mem_map_of_mem behind)
        rw [enterGiven, others _ differs]
        cases found : given head.name with
        | none =>
            simp only [enterGiven, found]
            exact ih distinctRest commutesRest behind
        | some own =>
            have swapped := commutesHead field behind own.toDocument json.toDocument record
            simp only [enterGiven, found]
            simp only [except_bind_eq_ok_iff] at swapped ⊢
            simp only [ih distinctRest commutesRest behind, except_bind_eq_ok_iff]
            constructor
            · rintro ⟨first, enteredHead, second, enteredField, rest⟩
              obtain ⟨first', enteredField', enteredHead'⟩ :=
                (swapped second).mp ⟨first, enteredHead, enteredField⟩
              exact ⟨first', enteredField', second, enteredHead', rest⟩
            · rintro ⟨first, enteredField, second, enteredHead, rest⟩
              obtain ⟨first', enteredHead', enteredField'⟩ :=
                (swapped second).mpr ⟨first, enteredField, enteredHead⟩
              exact ⟨first', enteredHead', second, enteredField', rest⟩

theorem field?_eq_some {shape : Shape α} {name : String} {field : Field α}
    (found : shape.field? name = some field) : field ∈ shape.fields ∧ field.name = name :=
  ⟨List.mem_of_find?_eq_some found, by simpa using List.find?_some found⟩

theorem mem_names_iff {shape : Shape α} {name : String} :
    name ∈ shape.names ↔ ∃ field, shape.field? name = some field := by
  rw [← Option.isSome_iff_exists]
  simp [field?, names]

theorem field?_eq_none_iff {shape : Shape α} {name : String} :
    shape.field? name = none ↔ name ∉ shape.names := by
  simp [field?, names]

/-- A shape has no objection to the name of a member. -/
def Admits (shape : Shape α) (name : String) : Prop :=
  name ∈ shape.names ∨ shape.strictness ≠ .strict

/-- Decoding a member that is a field enters the field and goes on with the others. -/
theorem enterMembers_cons_of_field {shape : Shape α} {field : Field α} {name : String}
    {value : Json} {rest : List (String × Json)} {met met' : List String} {record result : α}
    (found : shape.field? name = some field) (fresh : name ∉ met) :
    shape.enterMembers (Json.membersToDocuments ((name, value) :: rest)) met record =
        .ok (met', result) ↔
      ∃ middle, field.enter value.toDocument record = .ok middle ∧
        shape.enterMembers (Json.membersToDocuments rest) (name :: met) middle =
          .ok (met', result) := by
  rw [Json.membersToDocuments, enterMembers]
  simp [found, fresh, except_bind_eq_ok_iff]

/-- Decoding a member that is no field goes on with the others, if the shape puts up
with it. -/
theorem enterMembers_cons_of_unknown {shape : Shape α} {name : String} {value : Json}
    {rest : List (String × Json)} {met met' : List String} {record result : α}
    (unknown : name ∉ shape.names) :
    shape.enterMembers (Json.membersToDocuments ((name, value) :: rest)) met record =
        .ok (met', result) ↔
      shape.strictness ≠ .strict ∧
        shape.enterMembers (Json.membersToDocuments rest) met record = .ok (met', result) := by
  have noField := field?_eq_none_iff.mpr unknown
  rw [Json.membersToDocuments, enterMembers]
  by_cases strict : shape.strictness = .strict
  · simp [noField, strict]
  · simp [noField, strict]

/-- The names of the members that are fields, the last one first. -/
def known (shape : Shape α) (members : List (String × Json)) : List String :=
  ((members.map Prod.fst).filter (· ∈ shape.names)).reverse

theorem known_cons_of_field {shape : Shape α} {name : String} (isField : name ∈ shape.names)
    (value : Json) (rest : List (String × Json)) :
    shape.known ((name, value) :: rest) = shape.known rest ++ [name] := by
  simp [known, isField]

theorem known_cons_of_unknown {shape : Shape α} {name : String} (unknown : name ∉ shape.names)
    (value : Json) (rest : List (String × Json)) :
    shape.known ((name, value) :: rest) = shape.known rest := by
  simp [known, unknown]

theorem mem_known_iff {shape : Shape α} {members : List (String × Json)} {name : String} :
    name ∈ shape.known members ↔ name ∈ shape.names ∧ members.lookup name ≠ none := by
  rw [known, List.mem_reverse, List.mem_filter, ne_eq, List.lookup_eq_none_iff]
  simp [and_comm]

/-- Decoding members has met those that are fields, and has entered these. -/
theorem enterMembers_eq_ok_iff {shape : Shape α} (orderly : shape.Orderly)
    {members : List (String × Json)} (ascending : Members.Ascending members) :
    ∀ {met met' : List String} {record result : α}, (∀ entry ∈ members, entry.1 ∉ met) →
      (shape.enterMembers (Json.membersToDocuments members) met record = .ok (met', result) ↔
        met' = shape.known members ++ met ∧
          (∀ entry ∈ members, shape.Admits entry.1) ∧
          enterGiven (members.lookup ·) shape.fields record = .ok result) := by
  induction members with
  | nil =>
      intro met met' record result _
      rw [enterGiven_of_none fun _ _ => rfl]
      simp [Json.membersToDocuments, enterMembers, known, eq_comm]
  | cons head rest ih =>
      intro met met' record result fresh
      obtain ⟨name, value⟩ := head
      obtain ⟨above, ascendingRest⟩ := List.pairwise_cons.mp ascending
      have freshHead : name ∉ met := fresh _ List.mem_cons_self
      have freshOthers : ∀ entry ∈ rest, entry.1 ∉ met := fun entry member =>
        fresh entry (List.mem_cons_of_mem _ member)
      have others : ∀ other, other ≠ name →
          ((name, value) :: rest).lookup other = rest.lookup other :=
        fun other distinct => Members.lookup_cons_of_ne distinct value rest
      rw [List.forall_mem_cons]
      by_cases isField : name ∈ shape.names
      · obtain ⟨field, found⟩ := mem_names_iff.mp isField
        obtain ⟨member, rfl⟩ := field?_eq_some found
        have freshRest : ∀ entry ∈ rest, entry.1 ∉ field.name :: met := by
          intro entry entryMember again
          rcases List.mem_cons.mp again with same | before
          · exact String.lt_irrefl _ (same ▸ above entry entryMember)
          · exact freshOthers entry entryMember before
        have first : enterGiven (((field.name, value) :: rest).lookup ·) shape.fields record =
              .ok result ↔
            (field.enter value.toDocument record >>=
              enterGiven (rest.lookup ·) shape.fields) = .ok result :=
          enterGiven_first List.lookup_cons_self
            (Members.lookup_eq_none_of_ascending ascending) others orderly.distinct
            orderly.commutes member
        rw [enterMembers_cons_of_field found freshHead, known_cons_of_field isField,
          List.append_assoc, List.singleton_append, first, except_bind_eq_ok_iff]
        constructor
        · rintro ⟨middle, entered, decoded⟩
          obtain ⟨metAll, admitted, given⟩ := (ih ascendingRest freshRest).mp decoded
          exact ⟨metAll, ⟨.inl isField, admitted⟩, middle, entered, given⟩
        · rintro ⟨metAll, ⟨_, admitted⟩, middle, entered, given⟩
          exact ⟨middle, entered, (ih ascendingRest freshRest).mpr ⟨metAll, admitted, given⟩⟩
      · have same : enterGiven (((name, value) :: rest).lookup ·) shape.fields =
            enterGiven (rest.lookup ·) shape.fields :=
          enterGiven_congr fun field member => others _ fun equal =>
            isField (equal ▸ List.mem_map_of_mem member)
        have admits : shape.Admits name ↔ shape.strictness ≠ .strict :=
          or_iff_right isField
        rw [enterMembers_cons_of_unknown isField, known_cons_of_unknown isField, same, admits,
          ih ascendingRest freshOthers, and_left_comm, and_assoc]

theorem missing?_eq_none_iff {shape : Shape α} {met : List String} :
    shape.missing? met = none ↔
      ∀ field ∈ shape.fields, field.absence = .refused → field.name ∈ met := by
  simp [missing?]

/-- A record is decoded from an object exactly if the shape admits every member, the
fields that have to be given are, and the record results from entering those that
are given. -/
theorem decoder_object_eq_ok_iff {shape : Shape α} (orderly : shape.Orderly)
    {members : List (String × Json)} (ascending : Members.Ascending members) {record : α} :
    shape.decoder.ofJson (.object members) = .ok record ↔
      (∀ entry ∈ members, shape.Admits entry.1) ∧
        (∀ field ∈ shape.fields, field.absence = .refused → members.lookup field.name ≠ none) ∧
        enterGiven (members.lookup ·) shape.fields shape.blank = .ok record := by
  have entered (met : List String) (result : α) :
      shape.enterMembers (Json.membersToDocuments members) [] shape.blank = .ok (met, result) ↔
        met = shape.known members ++ [] ∧ (∀ entry ∈ members, shape.Admits entry.1) ∧
          enterGiven (members.lookup ·) shape.fields shape.blank = .ok result :=
    enterMembers_eq_ok_iff orderly ascending fun entry _ => List.not_mem_nil
  rw [Decoder.ofJson, Json.toDocument, decoder, except_bind_eq_ok_iff]
  constructor
  · rintro ⟨⟨met, result⟩, decoded, complete⟩
    obtain ⟨metAll, admitted, enteredAll⟩ := (entered met result).mp decoded
    rw [List.append_nil] at metAll
    subst metAll
    cases missing : shape.missing? (shape.known members) with
    | some name => simp only [missing, reduceCtorEq] at complete
    | none =>
        simp only [missing, Except.ok.injEq] at complete
        refine ⟨admitted, fun field member refused => ?_, complete ▸ enteredAll⟩
        exact (mem_known_iff.mp (missing?_eq_none_iff.mp missing field member refused)).2
  · rintro ⟨admitted, required, enteredAll⟩
    have complete := missing?_eq_none_iff.mpr fun field member refused =>
      mem_known_iff.mpr ⟨List.mem_map_of_mem member, required field member refused⟩
    refine ⟨(shape.known members, record), (entered _ record).mpr ⟨?_, admitted, enteredAll⟩, ?_⟩
    · rw [List.append_nil]
    · simp only [complete]

/-- What is given reads as a record, field by field in the order of the shape: the
fields that have to be given are, and the others are what they are if left out or what
their own members say. -/
inductive Reads (given : String → Option Json) : List (Field α) → α → α → Prop where
  | nil (record : α) : Reads given [] record record
  | required {β : Type} {name : String} {decoder : Decoder β} {set : α → β → α}
      {fields : List (Field α)} {record result : α} {json : Json} {value : β} :
      given name = some json → decoder.ofJson json = .ok value →
        Reads given fields (set record value) result →
          Reads given (.required name decoder set :: fields) record result
  | defaulted {β : Type} {name : String} {decoder : Decoder β} {set : α → β → α}
      {fields : List (Field α)} {record result : α} {absent value : β} :
      decoder.member absent (given name) = .ok value → set record absent = record →
        Reads given fields (set record value) result →
          Reads given (.defaulted name decoder set :: fields) record result

namespace Reads

variable {given : String → Option Json} {fields : List (Field α)} {record result : α}

theorem enterGiven (reads : Reads given fields record result) :
    Shape.enterGiven given fields record = .ok result := by
  induction reads with
  | nil record => rfl
  | required found read _ ih => exact enterGiven_of_required found read ih
  | defaulted read unchanged _ ih => exact enterGiven_of_member read ih unchanged

theorem complete (reads : Reads given fields record result) :
    ∀ field ∈ fields, field.absence = .refused → given field.name ≠ none := by
  induction reads with
  | nil record =>
      intro field member
      cases member
  | required found _ _ ih =>
      rw [List.forall_mem_cons]
      constructor
      · intro _
        exact Option.ne_none_iff_exists'.mpr ⟨_, found⟩
      · exact ih
  | defaulted _ _ _ ih =>
      rw [List.forall_mem_cons]
      constructor
      · intro refused
        cases refused
      · exact ih

/-- A field that is given exactly if it has a value is read as that value. -/
theorem optional {β : Type} {name : String} {decoder : Decoder β} {set : α → Option β → α}
    {encode : β → Json} {value? : Option β} (found : given name = value?.map encode)
    (present : ∀ value, encode value ≠ .null)
    (back : ∀ value, decoder.ofJson (encode value) = .ok value)
    (unchanged : set record none = record)
    (reads : Reads given fields (set record value?) result) :
    Reads given (.optional name decoder set :: fields) record result := by
  have read : decoder.option.member none (given name) = .ok value? := by
    rw [found]
    exact Decoder.member_option_map present back value?
  exact .defaulted read unchanged reads

/-- A lenient shape decodes members in any order as the record that they read as. -/
theorem decoder {shape : Shape α} (orderly : shape.Orderly) (lenient : shape.strictness ≠ .strict)
    {members : List (String × Json)}
    (reads : Reads (Json.record members).member? shape.fields shape.blank record) :
    shape.decoder.ofJson (Json.record members) = .ok record := by
  apply (decoder_object_eq_ok_iff orderly (Members.ascending_ofList members)).mpr
  refine ⟨?_, ?_, ?_⟩
  · intro entry _
    exact .inr lenient
  · exact reads.complete
  · exact reads.enterGiven

end Reads

theorem enterMembers_of_strangers {shape : Shape α} (lenient : shape.strictness ≠ .strict)
    {members : List (String × Json)} (strangers : ∀ entry ∈ members, entry.1 ∉ shape.names)
    (met : List String) (record : α) :
    shape.enterMembers (Json.membersToDocuments members) met record = .ok (met, record) := by
  induction members with
  | nil => rfl
  | cons head rest ih =>
      have ⟨unknown, strangersRest⟩ := List.forall_mem_cons.mp strangers
      exact (enterMembers_cons_of_unknown unknown).mpr ⟨lenient, ih strangersRest⟩

/-- Members that are none of the fields lack the first of those that have to be given. -/
theorem decoder_of_strangers {shape : Shape α} (lenient : shape.strictness ≠ .strict)
    {members : List (String × Json)} (strangers : ∀ entry ∈ members, entry.1 ∉ shape.names)
    {name : String} (missing : shape.missing? [] = some name) :
    shape.decoder.ofJson (Json.record members) = .error (.missingField name) := by
  have sortedStrangers : ∀ entry ∈ Members.ofList members, entry.1 ∉ shape.names := by
    intro entry member
    exact strangers entry (Members.mem_ofList member)
  rw [Decoder.ofJson, Json.record, Json.toDocument, decoder,
    enterMembers_of_strangers lenient sortedStrangers]
  simp only [except_bind_ok, missing]

theorem decoder_pair {first second : String} {decoder : Decoder β} {decoder' : Decoder γ}
    {set : α → β → α} {set' : α → γ → α} {title : String} {blank : α} {json json' : Json}
    {value : β} {value' : γ} (sorted : first < second) (read : decoder.ofJson json = .ok value)
    (read' : decoder'.ofJson json' = .ok value') :
    (Shape.decoder ⟨title, .lenient,
      [.required first decoder set, .required second decoder' set'], blank⟩).ofJson
        (Json.record [(first, json), (second, json')]) =
      .ok (set' (set blank value) value') := by
  have ascending : Members.Ascending [(first, json), (second, json')] := by
    simpa [Members.Ascending] using sorted
  have distinct : first ≠ second := fun same => String.lt_irrefl _ (same ▸ sorted)
  rw [Json.record, Members.ofList_of_ascending ascending]
  rw [Decoder.ofJson] at read read'
  simp [Decoder.ofJson, Json.toDocument, Json.membersToDocuments, Shape.decoder, enterMembers,
    field?, missing?, Field.required, Except.map, distinct, distinct.symm, read,
    read']

/-- The members that a shape does not know. -/
def others (shape : Shape α) (members : List (String × Json)) : List (String × Json) :=
  members.filter fun entry => entry.1 ∉ shape.names

/-- A record that keeps the members which its shape does not know is decoded like one
that skips them. -/
theorem enterOpenMembers_eq_map {shape : Shape α} (lenient : shape.strictness = .lenient)
    {members : List (String × Json)} (canonical : ∀ entry ∈ members, entry.2.Canonical) :
    ∀ (met : List String) (record : α),
      shape.enterOpenMembers (Json.membersToDocuments members) met record =
        (shape.enterMembers (Json.membersToDocuments members) met record).map fun decoded =>
          (shape.others members, decoded.2) := by
  induction members with
  | nil =>
      intro met record
      rfl
  | cons head rest ih =>
      intro met record
      obtain ⟨name, value⟩ := head
      have ihRest := ih fun entry member => canonical entry (List.mem_cons_of_mem _ member)
      have readValue := Json.toJson_toDocument (canonical (name, value) List.mem_cons_self)
      rw [Json.membersToDocuments, enterOpenMembers, enterMembers]
      simp only [except_mapError_ok, except_bind_ok]
      cases found : shape.field? name with
      | none =>
          have kept : shape.others ((name, value) :: rest) =
              (name, value) :: shape.others rest := by
            simp [others, field?_eq_none_iff.mp found]
          simp only [readValue, ihRest, kept, lenient, reduceCtorEq, if_false,
            Json.skipFault_toDocument]
          cases shape.enterMembers (Json.membersToDocuments rest) met record <;> rfl
      | some field =>
          have kept : shape.others ((name, value) :: rest) = shape.others rest := by
            simp [others, mem_names_iff.mpr ⟨field, found⟩]
          by_cases again : name ∈ met
          · simp [again, lenient, Except.map]
          · have notMet : met.contains name = false := by simpa using again
            simp only [notMet, Bool.false_and, Bool.false_eq_true, if_false, ihRest, kept]
            cases field.enter value.toDocument record <;> rfl

end Shape

end GatewayAcl
