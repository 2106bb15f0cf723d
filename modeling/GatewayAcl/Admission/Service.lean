import GatewayAcl.Admission.Metrics
import GatewayAcl.Admission.Mutator
import GatewayAcl.Admission.Response
import GatewayAcl.Admission.Validator
import GatewayAcl.Http.Request

/-!
# Admission service

The service that the API server asks over HTTP. There is one place to ask at, and
all that can be said about a request is said in a response, so the status of an
answer is a success even for a body that cannot be understood.
-/

namespace GatewayAcl.Admission

/-- What an HTTP request is answered with. -/
inductive HttpAnswer where
  /-- There is nothing to ask at the target. -/
  | notFound
  /-- A review with a response. -/
  | reviewed (response : Response)

namespace HttpAnswer

def status : HttpAnswer → Nat
  | .notFound => 404
  | .reviewed _ => 200

/-- The media type of an answer's body, if there is one. -/
def contentType? : HttpAnswer → Option String
  | .notFound => none
  | .reviewed _ => some "application/json"

def body? : HttpAnswer → Option Json
  | .notFound => none
  | .reviewed response => some response.encode

end HttpAnswer

/-- Why an HTTP request is not answered. -/
inductive ServiceError where
  | unreadableBody
  deriving DecidableEq, Repr

def ServiceError.message : ServiceError → String
  | .unreadableBody => "failed to read request body: error reading a body from connection"

/-- The handling of one request: the answer, what was looked up for it, and what
there is to count. -/
structure Handling (α : Type) where
  answer : α
  queries : List Query := []
  observation : Option Observation := none

/-- The service: a mutator for gateway filter objects and a validator for
extensions. -/
structure Service where
  mutator : Mutator
  validator : Validator

namespace Service

def isFilterRequest (request : Request) : Bool :=
  request.kind.isNamed "networking.istio.io" "EnvoyFilter"

def isExtensionRequest (request : Request) : Bool :=
  request.kind.isNamed "extensions.gardener.cloud" "Extension"

def handleFilter (service : Service) (type : ObjectType) (request : Request) :
    Handling Response :=
  let inquiry := service.mutator.mutate request
  let (response, verdict) :=
    match inquiry.result with
    | .ok none => (Response.accept type request, Verdict.allowed)
    | .ok (some patch) => (Response.acceptPatched type request patch, Verdict.patched)
    | .error rejection => (Response.deny type request rejection, Verdict.denied)
  ⟨response, inquiry.queries, some ⟨request.kind.kind, verdict⟩⟩

def handleExtension (service : Service) (type : ObjectType) (request : Request) :
    Handling Response :=
  let (response, verdict) :=
    match service.validator.validate request with
    | .ok () => (Response.accept type request, Verdict.allowed)
    | .error rejection => (Response.deny type request rejection, Verdict.denied)
  ⟨response, [], some ⟨request.kind.kind, verdict⟩⟩

def handleRequest (service : Service) (type : ObjectType) (request : Request) :
    Handling Response :=
  if isFilterRequest request then service.handleFilter type request
  else if isExtensionRequest request then service.handleExtension type request
  else { answer := .unsupported ("unsupported resource type: " ++ request.kind.print) }

/-- Handles the body of an HTTP request, which should be a review with a
request. -/
def handleBody (service : Service) (body : List UInt8) : Handling Response :=
  match Review.decoder.ofBytes body with
  | .error error => { answer := .unsupported error.message }
  | .ok ⟨_, none⟩ =>
      { answer := .unsupported "failed to convert AdmissionReview into AdmissionRequest" }
  | .ok ⟨type, some request⟩ => service.handleRequest type request

def handle (service : Service) (request : Http.Request) :
    Handling (Except ServiceError HttpAnswer) :=
  if request.method != "POST" || request.target.path != "/" then { answer := .ok .notFound }
  else
    match request.body with
    | none => { answer := .error .unreadableBody }
    | some body =>
        let handling := service.handleBody body
        ⟨.ok (.reviewed handling.answer), handling.queries, handling.observation⟩

/-- The metrics after one more handled request. -/
def record {α : Type} (metrics : Metrics) (handling : Handling α) : Metrics :=
  match handling.observation with
  | none => metrics
  | some observation => metrics.observe observation

end Service

end GatewayAcl.Admission
