import GatewayAcl.Json.DecodeError
import GatewayAcl.Json.Document
import GatewayAcl.Json.Reader
import GatewayAcl.Power

/-!
# Decoders

A decoder turns a document into a value of some type, or says what it met first
that does not fit. This module holds the decoders of plain values, lists, maps,
optional values and variants.
-/

namespace GatewayAcl

open Json (Number TextFault)

/-- A way to read values of a type from documents. -/
abbrev Decoder (α : Type) := Document → Except DecodeError α

namespace Document

/-- What the document is, or the fault it consists of. -/
def found : Document → Except DecodeError Found
  | .null => .ok .null
  | .bool value => .ok (.boolean value)
  | .number value => .ok (.number value)
  | .string value => .ok (.text value)
  | .array _ => .ok .sequence
  | .object _ => .ok .map
  | .fault _ read _ => .error (.malformedText read)

/-- Refuses the document, which should be something else. -/
def refuse {α : Type} (document : Document) (expected : String) : Except DecodeError α := do
  let found ← document.found
  .error (.invalidType found expected)

end Document

namespace Decoder

variable {α β : Type}

def json : Decoder Json := fun document =>
  document.toJson.mapError .malformedText

def string : Decoder String
  | .string value => .ok value
  | document => document.refuse "a string"

def bool : Decoder Bool
  | .bool value => .ok value
  | document => document.refuse "a boolean"

/-- An integer within bounds, both included. The name of its type is what an
error calls it. -/
def integer (typeName : String) (least greatest : Int) : Decoder Int
  | .number (.integer value) =>
      if least ≤ value ∧ value ≤ greatest then .ok value
      else .error (.invalidValue (.number (.integer value)) typeName)
  | document => document.refuse typeName

/-- A natural number of at most the given number of bits. -/
def natural (typeName : String) (bits : Nat) : Decoder Nat := fun document =>
  (integer typeName 0 (Power.ofTwo bits - 1 : Nat) document).map Int.toNat

def u8 : Decoder Nat := natural "u8" 8

def u16 : Decoder Nat := natural "u16" 16

def u32 : Decoder Nat := natural "u32" 32

def i64 : Decoder Int := integer "i64" (-(Power.ofTwo 63 : Int)) (Power.ofTwo 63 - 1)

def timestamp : Decoder Timestamp
  | .string value => (Timestamp.parse value.toList).mapError .malformedTimestamp
  | document => document.refuse "an RFC 3339 formatted date and time string"

/-- Null or a value. What begins like null is read as null. -/
def option (inner : Decoder α) : Decoder (Option α)
  | .null => .ok none
  | .fault .null read _ => .error (.malformedText read)
  | document => (inner document).map some

/-- Decodes the items of a list one after the other. -/
def items (inner : Decoder α) : List Document → Except DecodeError (List α)
  | [] => .ok []
  | item :: rest => do
      let value ← inner item
      let values ← items inner rest
      .ok (value :: values)

def list (inner : Decoder α) : Decoder (List α)
  | .array documents => items inner documents
  | document => document.refuse "a sequence"

/-- Decodes the members of a map one after the other. -/
def members (inner : Decoder α) :
    List (Except TextFault String × Document) → Except DecodeError (List (String × α))
  | [] => .ok []
  | (name, value) :: rest => do
      let name ← name.mapError .malformedText
      let value ← inner value
      let entries ← members inner rest
      .ok ((name, value) :: entries)

/-- A map from names to values. The last of several members with one name
counts. -/
def dictionary (inner : Decoder α) : Decoder (Dictionary α)
  | .object entries => (members inner entries).map Dictionary.ofList
  | document => document.refuse "a map"

/-- The value of a variant that carries none: null, if anything. -/
def unit : Decoder Unit
  | .null => .ok ()
  | document => document.refuse "unit"

def variant (known : List (String × α)) (name : String) : Except DecodeError α :=
  match known.lookup name with
  | some value => .ok value
  | none => .error (.unknownVariant name (known.map Prod.fst))

/-- The name of a variant and the document of its value, if it has one. -/
def tagged : Decoder (String × Option Document)
  | .string name => .ok (name, none)
  | .object [(name, value)] => (name.mapError .malformedText).map (·, some value)
  | .object _ => .error (.invalidValue .map "map with a single key")
  | document => document.refuse "string or map"

/-- One of several variants that carry no value: its name alone, or its name as
the only key of a map to null. -/
def enumeration (known : List (String × α)) : Decoder α := fun document => do
  let (name, value?) ← tagged document
  let result ← variant known name
  match value? with
  | none => .ok result
  | some value => (unit value).map fun _ => result

/-- The fault of a text where a variant should be. Only a string or a map can begin
one, so nothing else is looked into. -/
def variantFault : Beginning → TextFault → TextFault
  | .other, fault => fault
  | _, _ => .expectedValue

/-- One of several variants that carry no value, in a text. There the name is
read before the number of keys is known, and only a string or a map can begin a
variant. -/
def enumerationInText (known : List (String × α)) : Decoder α
  | .string name => variant known name
  | .object [] => .error (.malformedText .expectedValue)
  | .object ((name, value) :: rest) => do
      let name ← name.mapError .malformedText
      let result ← variant known name
      unit value
      match rest with
      | [] => .ok result
      | [(.error .endInObject, _)] => .error (.malformedText .endInObject)
      | _ => .error (.malformedText .expectedValue)
  | .fault beginning read _ => .error (.malformedText (variantFault beginning read))
  | _ => .error (.malformedText .expectedValue)

/-- The value that a bare variant lacks. -/
def required (value? : Option Document) : Except DecodeError Document :=
  match value? with
  | some value => .ok value
  | none => .error (.invalidType .bareVariant "newtype variant")

def ofJson (decoder : Decoder α) (json : Json) : Except DecodeError α :=
  decoder json.toDocument

/-- Decodes a text that holds one value with nothing but blanks around it. -/
def ofBytes (decoder : Decoder α) (text : List UInt8) : Except DecodeError α := do
  let reading := Json.readDocument text
  let value ← (decoder reading.document).mapError .inText
  match Json.skipBlanks (reading.rest.getD []) with
  | [] => .ok value
  | _ :: _ => .error (.malformedText .trailingCharacters)

def ofText (decoder : Decoder α) (text : String) : Except DecodeError α :=
  decoder.ofBytes text.toUTF8.toList

end Decoder

end GatewayAcl
