import GatewayAcl.Admission.Request

/-!
# Admission reviews

A review carries a request to the service and a response back. It is open to
members that are not known here, and its own type is looked at last, when
everything else has been read.
-/

namespace GatewayAcl.Admission

/-- The type of an object: a version of an API and a kind. -/
structure ObjectType where
  apiVersion : String
  kind : String
  deriving DecidableEq, Repr

namespace ObjectType

def shape : Shape ObjectType where
  name := "TypeMeta"
  strictness := .lenient
  blank := ⟨"", ""⟩
  fields := [
    .required "apiVersion" .string fun type value => { type with apiVersion := value },
    .required "kind" .string fun type value => { type with kind := value }]

/-- The type of an object, among members that are not looked at otherwise. -/
def ofMembers (members : List (String × Json)) : Except DecodeError ObjectType :=
  shape.decoder (.object (Json.membersToDocuments members))

end ObjectType

/-!
A review that comes in may carry a response already. It has to be well-formed, but
nobody looks at it.
-/

def causeShape : Shape Unit where
  name := "StatusCause"
  strictness := .lenient
  blank := ()
  fields := [
    .ignored "reason" .allowed .string,
    .ignored "message" .allowed .string,
    .ignored "field" .allowed .string]

def detailsShape : Shape Unit where
  name := "StatusDetails"
  strictness := .lenient
  blank := ()
  fields := [
    .ignored "name" .allowed .string,
    .ignored "group" .allowed .string,
    .ignored "kind" .allowed .string,
    .ignored "uid" .allowed .string,
    .ignored "causes" .allowed (.list causeShape.decoder),
    .ignored "retryAfterSeconds" .allowed .u32]

def statusShape : Shape Unit where
  name := "Status"
  strictness := .lenient
  blank := ()
  fields := [
    .ignored "status" .allowed
      (Decoder.enumerationInText [("Success", ()), ("Failure", ())]).option,
    .ignored "code" .allowed .u16,
    .ignored "message" .allowed .string,
    .ignored "reason" .allowed .string,
    .ignored "details" .allowed detailsShape.decoder.option]

def responseShape : Shape Unit where
  name := "AdmissionResponse"
  strictness := .lenient
  blank := ()
  fields := [
    .ignored "uid" .refused .string,
    .ignored "allowed" .refused .bool,
    .ignored "status" .refused statusShape.decoder,
    .ignored "patch" .keyed (Decoder.list .u8).option,
    .ignored "patchType" .keyed (Decoder.enumerationInText [("JSONPatch", ())]).option,
    .ignored "auditAnnotations" .allowed (.dictionary .string),
    .ignored "warnings" .keyed (Decoder.list .string).option]

/-- A review that comes in. -/
structure Review where
  type : ObjectType
  request : Option Request

namespace Review

def shape : Shape (Option Request) where
  name := "AdmissionReview"
  strictness := .lenient
  blank := none
  fields := [
    .optional "request" Request.shape.decoder fun _ value => value,
    .optional "response" responseShape.decoder fun request _ => request]

def decoder : Decoder Review := fun document => do
  let (others, request) ← shape.openDecoder document
  let type ← ObjectType.ofMembers others
  .ok ⟨type, request⟩

end Review

end GatewayAcl.Admission
