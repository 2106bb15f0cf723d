import GatewayAcl.Json.Decoder

/-!
# Records

The shape of a record lists its fields in order, each with the decoder of its
value and what it means that it is not given. A record is decoded from an object
with its fields as members, in any order, or from an array of its fields in the
order of the shape.

Members are decoded as they are met; then the fields that are missing are looked
for in the order of the shape. So a member of the wrong kind is reported before
a missing field, and of two missing fields the one that the shape lists first.
-/

namespace GatewayAcl

open Json (TextFault)

/-- What it means that a field is not given. -/
inductive Absence where
  /-- The field has to be given. -/
  | refused
  /-- The field may be left out of an object, but not of an array. -/
  | keyed
  /-- The field may be left out. -/
  | allowed
  deriving DecidableEq, Repr

/-- A field of a record: its name, what its absence means, and how its value
enters the record. -/
structure Field (α : Type) where
  name : String
  absence : Absence
  enter : Document → α → Except DecodeError α

/-- What becomes of members that a record does not know. -/
inductive Strictness where
  /-- They are skipped. -/
  | lenient
  /-- They are refused. -/
  | strict
  /-- They are skipped, members may be repeated, and arrays are refused. -/
  | keyedOnly
  deriving DecidableEq, Repr

/-- A kind of record. -/
structure Shape (α : Type) where
  name : String
  strictness : Strictness
  fields : List (Field α)
  /-- The record before any field has been decoded. -/
  blank : α

namespace Field

variable {α β : Type}

/-- A field that has to be given. -/
def required (name : String) (decoder : Decoder β) (set : α → β → α) : Field α :=
  ⟨name, .refused, fun document record => (decoder document).map (set record)⟩

/-- A field that keeps its blank value if it is not given. -/
def defaulted (name : String) (decoder : Decoder β) (set : α → β → α) : Field α :=
  ⟨name, .allowed, fun document record => (decoder document).map (set record)⟩

/-- A field whose value may be null, which is the same as its absence. -/
def optional (name : String) (decoder : Decoder β) (set : α → Option β → α) : Field α :=
  defaulted name decoder.option set

/-- A field whose value may be null and which may be left out of objects only. -/
def keyedOptional (name : String) (decoder : Decoder β) (set : α → Option β → α) : Field α :=
  ⟨name, .keyed, fun document record => (decoder.option document).map (set record)⟩

/-- A field whose value is decoded but does not enter the record. -/
def ignored (name : String) (absence : Absence) (decoder : Decoder β) : Field α :=
  ⟨name, absence, fun document record => (decoder document).map fun _ => record⟩

end Field

namespace Shape

variable {α : Type}

def names (shape : Shape α) : List String :=
  shape.fields.map Field.name

def field? (shape : Shape α) (name : String) : Option (Field α) :=
  shape.fields.find? (·.name == name)

/-- What an error calls a record of this shape. -/
def title (shape : Shape α) : String :=
  match shape.strictness with
  | .keyedOnly => shape.name
  | _ => "struct " ++ shape.name

/-- What an error calls an array of this shape's fields. -/
def arrayTitle (shape : Shape α) : String :=
  let count := shape.fields.length
  shape.title ++ " with " ++ toString count ++ (if count = 1 then " element" else " elements")

/-- Decodes members in the order in which they are met. The names of the fields
met so far are kept, to find repeated and missing ones. -/
def enterMembers (shape : Shape α) :
    List (Except TextFault String × Document) → List String → α →
      Except DecodeError (List String × α)
  | [], met, record => .ok (met, record)
  | (name, value) :: rest, met, record => do
      let name ← name.mapError .malformedText
      match shape.field? name with
      | some field =>
          if met.contains name && shape.strictness != .keyedOnly then
            .error (.duplicateField name)
          else
            let record ← field.enter value record
            enterMembers shape rest (name :: met) record
      | none =>
          if shape.strictness = .strict then .error (.unknownField name shape.names)
          else
            match value.skipFault with
            | some fault => .error (.malformedText fault)
            | none => enterMembers shape rest met record

/-- The first field that has to be given and was not met. -/
def missing? (shape : Shape α) (met : List String) : Option String :=
  (shape.fields.find? fun field => field.absence == .refused && !met.contains field.name).map
    Field.name

/-- The error of the items behind the last field of an array. -/
def surplus (given : Nat) : List Document → Option DecodeError
  | [] => none
  | .fault _ .endInList _ :: _ => some (.malformedText .endInList)
  | .fault _ .trailingComma _ :: _ => some (.malformedText .trailingComma)
  | .fault _ _ _ :: _ => some (.malformedText .trailingCharacters)
  | _ :: _ => some (.surplusItems given)

/-- Decodes the items of an array as the fields of the shape. `index` counts the
fields in front of the given ones, and `given` the items of the whole array. -/
def enterItems (shape : Shape α) (given : Nat) :
    Nat → List (Field α) → List Document → α → Except DecodeError α
  | _, [], items, record =>
      match surplus given items with
      | some error => .error error
      | none => .ok record
  | index, field :: fields, [], record =>
      if field.absence = .allowed then enterItems shape given (index + 1) fields [] record
      else .error (.invalidLength index shape.arrayTitle)
  | index, field :: fields, item :: items, record => do
      let record ← field.enter item record
      enterItems shape given (index + 1) fields items record

/-- Decodes a record from an object or, unless the shape is keyed only, from an
array. -/
def decoder (shape : Shape α) : Decoder α
  | .object members => do
      let (met, record) ← shape.enterMembers members [] shape.blank
      match shape.missing? met with
      | some name => .error (.missingField name)
      | none => .ok record
  | .array items =>
      if shape.strictness = .keyedOnly then .error (.invalidType .sequence shape.title)
      else shape.enterItems items.length 0 shape.fields items shape.blank
  | document => document.refuse shape.title

/-- Decodes members in the order in which they are met and keeps those that the
shape does not know, as values in that order. -/
def enterOpenMembers (shape : Shape α) :
    List (Except TextFault String × Document) → List String → α →
      Except DecodeError (List (String × Json) × α)
  | [], _, record => .ok ([], record)
  | (name, value) :: rest, met, record => do
      let name ← name.mapError .malformedText
      match shape.field? name with
      | some field =>
          if met.contains name then .error (.duplicateField name)
          else
            let record ← field.enter value record
            enterOpenMembers shape rest (name :: met) record
      | none =>
          let value ← value.toJson.mapError .malformedText
          let (others, record) ← enterOpenMembers shape rest met record
          .ok ((name, value) :: others, record)

/-- Decodes a record that is open to members which its shape does not know. None
of the fields has to be given, and arrays are refused. -/
def openDecoder (shape : Shape α) : Decoder (List (String × Json) × α)
  | .object members => shape.enterOpenMembers members [] shape.blank
  | document => document.refuse shape.title

end Shape

end GatewayAcl
