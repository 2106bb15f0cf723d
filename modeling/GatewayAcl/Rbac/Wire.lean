import GatewayAcl.Json.Shape
import GatewayAcl.Rbac.Filter

/-!
# Access filters on the wire

How filters are written as JSON and read back, with the gateway's own names for
their fields.
-/

namespace GatewayAcl

def Action.decoder : Decoder Action := .enumeration Action.known

namespace Rbac

/-- A natural number of 32 bits. -/
def word : Decoder UInt32 := fun document =>
  (Decoder.u32 document).map UInt32.ofNat

namespace CidrRange

def shape : Shape CidrRange where
  name := "CidrRange"
  strictness := .lenient
  blank := ⟨"", 0⟩
  fields := [
    .required "address_prefix" .string fun range value => { range with addressPrefix := value },
    .required "prefix_len" word fun range value => { range with prefixLength := value }]

def encode (range : CidrRange) : Json :=
  .record [
    ("address_prefix", .string range.addressPrefix),
    ("prefix_len", .ofNat range.prefixLength.toNat)]

end CidrRange

namespace StringMatcher

/-- The kinds of conditions on a text under their names. -/
def known : List (String × (String → StringMatcher)) :=
  [("exact", .exact), ("prefix", .startsWith), ("contains", .contains)]

def decoder : Decoder StringMatcher := fun document => do
  let (name, value?) ← Decoder.tagged document
  let make ← Decoder.variant known name
  let value ← Decoder.required value?
  (Decoder.string value).map make

def encode : StringMatcher → Json
  | .exact value => .object [("exact", .string value)]
  | .startsWith value => .object [("prefix", .string value)]
  | .contains value => .object [("contains", .string value)]

end StringMatcher

namespace HeaderMatcher

def shape : Shape HeaderMatcher where
  name := "HeaderMatcher"
  strictness := .lenient
  blank := ⟨"", .exact ""⟩
  fields := [
    .required "name" .string fun matcher value => { matcher with name := value },
    .required "string_match" StringMatcher.decoder fun matcher value =>
      { matcher with value := value }]

def encode (matcher : HeaderMatcher) : Json :=
  .record [("name", .string matcher.name), ("string_match", matcher.value.encode)]

end HeaderMatcher

namespace Principal

inductive Kind where
  | address (matcher : Matcher)
  | all
  | any
  | not
  | header

def Kind.known : List (String × Kind) :=
  [("source_ip", .address .sourceIp), ("remote_ip", .address .remoteIp),
    ("direct_remote_ip", .address .directRemoteIp), ("and_ids", .all), ("or_ids", .any),
    ("not_id", .not), ("header", .header)]

mutual

def decode : Document → Except DecodeError Principal
  | .string name => do
      let _ ← Decoder.variant Kind.known name
      .error (.invalidType .bareVariant "newtype variant")
  | .object [(name, value)] => do
      let name ← name.mapError .malformedText
      let kind ← Decoder.variant Kind.known name
      match kind with
      | .address matcher => (CidrRange.shape.decoder value).map (.address matcher)
      | .all => (decodeSet value).map .all
      | .any => (decodeSet value).map .any
      | .not => (decode value).map .not
      | .header => (HeaderMatcher.shape.decoder value).map .header
  | .object _ => .error (.invalidValue .map "map with a single key")
  | document => document.refuse "string or map"

/-- A decoder of sets of principals, records with the one field `ids`. -/
def decodeSet : Document → Except DecodeError (List Principal)
  | .object members => decodeSetMembers none members
  | .array [] => .error (.invalidLength 0 "struct PrincipalSet with 1 element")
  | .array (ids :: others) => do
      let ids ← decodeIds ids
      match Shape.surplus (others.length + 1) others with
      | some error => .error error
      | none => .ok ids
  | document => document.refuse "struct PrincipalSet"

/-- Decodes the members of a set, of which only `ids` matters. -/
def decodeSetMembers (met : Option (List Principal)) :
    List (Except Json.TextFault String × Document) → Except DecodeError (List Principal)
  | [] =>
      match met with
      | some ids => .ok ids
      | none => .error (.missingField "ids")
  | (name, value) :: rest => do
      let name ← name.mapError .malformedText
      if name = "ids" then
        if met.isSome then .error (.duplicateField "ids")
        else
          let ids ← decodeIds value
          decodeSetMembers (some ids) rest
      else
        match value.skipFault with
        | some fault => .error (.malformedText fault)
        | none => decodeSetMembers met rest

def decodeIds : Document → Except DecodeError (List Principal)
  | .array items => decodeItems items
  | document => document.refuse "a sequence"

/-- Decodes the items of a list one after the other. -/
def decodeItems : List Document → Except DecodeError (List Principal)
  | [] => .ok []
  | item :: rest => do
      let id ← decode item
      let ids ← decodeItems rest
      .ok (id :: ids)

end

mutual

def encode : Principal → Json
  | .address matcher range => .object [(matcher.name, range.encode)]
  | .all ids => .object [("and_ids", .object [("ids", .array (encodeList ids))])]
  | .any ids => .object [("or_ids", .object [("ids", .array (encodeList ids))])]
  | .not id => .object [("not_id", encode id)]
  | .header matcher => .object [("header", matcher.encode)]

def encodeList : List Principal → List Json
  | [] => []
  | id :: ids => encode id :: encodeList ids

end

end Principal

namespace Permission

def decoder : Decoder Permission := fun document => do
  let (name, value?) ← Decoder.tagged document
  let make ← Decoder.variant [("any", Permission.any)] name
  let value ← Decoder.required value?
  (Decoder.bool value).map make

def encode : Permission → Json
  | .any value => .object [("any", .bool value)]

end Permission

namespace Policy

def shape : Shape Policy where
  name := "Policy"
  strictness := .lenient
  blank := ⟨[], []⟩
  fields := [
    .required "permissions" (.list Permission.decoder) fun policy value =>
      { policy with permissions := value },
    .required "principals" (.list Principal.decode) fun policy value =>
      { policy with principals := value }]

def encode (policy : Policy) : Json :=
  .record [
    ("permissions", .array (policy.permissions.map Permission.encode)),
    ("principals", .array (Principal.encodeList policy.principals))]

end Policy

namespace Rules

def shape : Shape Rules where
  name := "Rules"
  strictness := .lenient
  blank := ⟨.allow, .empty⟩
  fields := [
    .required "action" Action.decoder fun rules value => { rules with action := value },
    .required "policies" (.dictionary Policy.shape.decoder) fun rules value =>
      { rules with policies := value }]

def encode (rules : Rules) : Json :=
  .record [
    ("action", rules.action.encode),
    ("policies", .object (rules.policies.entries.map fun (name, policy) => (name, policy.encode)))]

end Rules

namespace Config

def shape : Shape Config where
  name := "Rbac"
  strictness := .lenient
  blank := ⟨"", none, ⟨.allow, .empty⟩⟩
  fields := [
    .required "@type" .string fun config value => { config with typeUrl := value },
    .optional "stat_prefix" .string fun config value => { config with statPrefix := value },
    .required "rules" Rules.shape.decoder fun config value => { config with rules := value }]

def encode (config : Config) : Json :=
  .record <|
    ("@type", .string config.typeUrl) ::
    Json.optionalMember "stat_prefix" .string config.statPrefix ++
    [("rules", config.rules.encode)]

end Config

namespace Filter

def shape : Shape Filter where
  name := "Filter"
  strictness := .lenient
  blank := ⟨"", "", none, .allow, .empty⟩
  fields := [
    .required "name" .string fun filter value => { filter with name := value },
    .required "typed_config" Config.shape.decoder fun filter value =>
      { filter with config := value }]

def encode (filter : Filter) : Json :=
  .record [("name", .string filter.name), ("typed_config", filter.config.encode)]

end Filter

end Rbac

end GatewayAcl
