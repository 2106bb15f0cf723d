import GatewayAcl.Admission.Review
import GatewayAcl.Json.Pointer
import GatewayAcl.Json.Printer

/-!
# Admission responses

What the service answers. A response that refuses a request says why, and one that
admits it may carry a patch. What cannot be understood as a request of a supported
kind has no identity to respond to; its response has a type of its own and an empty
identity.
-/

namespace GatewayAcl.Admission

/-- What became of a request, in detail. Numbers that are zero and texts that are
empty are left out. -/
structure Status where
  isFailure : Bool := false
  code : Nat := 0
  message : String := ""
  reason : String := ""
  deriving DecidableEq, Repr

namespace Status

/-- A member that is present only with a text. -/
def textMember (name text : String) : List (String × Json) :=
  if text = "" then [] else [(name, .string text)]

def encode (status : Status) : Json :=
  .record <|
    (if status.isFailure then [("status", .string "Failure")] else []) ++
    (if status.code = 0 then [] else [("code", .ofNat status.code)]) ++
    textMember "message" status.message ++
    textMember "reason" status.reason

end Status

structure Response where
  /-- The type of the review that carries the response. -/
  type : ObjectType
  uid : String
  allowed : Bool
  status : Status
  /-- The text of a patch, byte by byte. -/
  patch : Option (List UInt8)

namespace Response

/-- The type of reviews that answer what is no request. -/
def defaultType : ObjectType := ⟨"admission.k8s.io/v1beta1", "AdmissionReview"⟩

/-- The response to what is no request of a supported kind. -/
def unsupported (explanation : String) : Response where
  type := defaultType
  uid := ""
  allowed := false
  status := { isFailure := true, message := explanation, reason := "InvalidRequest" }
  patch := none

/-- The response that admits a request as it is. -/
def accept (type : ObjectType) (request : Request) : Response where
  type := type
  uid := request.uid
  allowed := true
  status := {}
  patch := none

/-- The response that admits a request with a patch. -/
def acceptPatched (type : ObjectType) (request : Request) (patch : Patch) : Response :=
  { accept type request with patch := some patch.encode.print.toUTF8.toList }

def deny (type : ObjectType) (request : Request) (rejection : Rejection) : Response :=
  { accept type request with
    allowed := false
    status := { code := rejection.code, message := rejection.message } }

/-- The members of a response that are there only with a patch. -/
def patchMembers (patch : Option (List UInt8)) : List (String × Json) :=
  match patch with
  | none => []
  | some bytes =>
      [("patch", .array (bytes.map fun byte => .ofNat byte.toNat)),
        ("patchType", .string "JSONPatch")]

def encode (response : Response) : Json :=
  .record [
    ("apiVersion", .string response.type.apiVersion),
    ("kind", .string response.type.kind),
    ("response", .record <|
      [("uid", .string response.uid), ("allowed", .bool response.allowed),
        ("status", response.status.encode)] ++ patchMembers response.patch)]

end Response

end GatewayAcl.Admission
