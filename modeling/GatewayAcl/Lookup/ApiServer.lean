import GatewayAcl.Lookup.StatusLine
import GatewayAcl.Lookup.Target

/-!
# Lookups against the API server

An object is looked up by one request. An error that the server reports is itself
an object, but the server, or something in front of it, may also answer with any
other text.
-/

namespace GatewayAcl

open Kube

/-- What a request is answered with. -/
inductive Reply where
  /-- A status code with a body. -/
  | answered (code : Nat) (body : String)
  /-- A status code with a body that is no text, and what is wrong with that. -/
  | garbled (code : Nat) (fault : String)
  /-- There is no answer, for the given reason. -/
  | failed (reason : String)

/-- An error that the server reports. -/
structure ServerError where
  status : String
  message : String
  reason : String
  code : Nat
  deriving DecidableEq, Repr

namespace ServerError

def shape : Shape ServerError where
  name := "ErrorResponse"
  strictness := .lenient
  blank := ⟨"", "", "", 0⟩
  fields := [
    .required "status" .string fun error value => { error with status := value },
    .defaulted "message" .string fun error value => { error with message := value },
    .defaulted "reason" .string fun error value => { error with reason := value },
    .required "code" .u16 fun error value => { error with code := value }]

/-- The error that an answer reports. A body that holds no error is reported as
the message of one. -/
def ofAnswer (code : Nat) (body : String) : ServerError :=
  match shape.decoder.ofText body with
  | .ok error => error
  | .error _ => ⟨statusLine code, Text.quote body, "Failed to parse error data", code⟩

def summary (error : ServerError) : String :=
  error.message ++ ": " ++ error.reason

/-- The wording of an error with all there is to it. -/
def details (error : ServerError) : String :=
  "ApiError: " ++ error.summary ++ " (ErrorResponse \x7b status: " ++ Text.quote error.status ++
    ", message: " ++ Text.quote error.message ++ ", reason: " ++ Text.quote error.reason ++
    ", code: " ++ toString error.code ++ " \x7d)"

def isNotFound (error : ServerError) : Bool :=
  error.reason == "NotFound"

end ServerError

/-- Why a request yields no object. -/
inductive RequestError where
  | target (error : TargetError)
  | transport (reason : String)
  | encoding (fault : String)
  | server (error : ServerError)
  | malformed (error : DecodeError)
  deriving DecidableEq, Repr

/-- The wording of an error with its causes, from the outside in. -/
def RequestError.causes : RequestError → List String
  | .target error => error.causes
  | .transport reason => ["ServiceError: " ++ reason, reason]
  | .encoding fault => ["UTF-8 Error: " ++ fault, fault]
  | .server error => [error.details, error.summary]
  | .malformed error => ["Error deserializing response: " ++ error.message, error.message]

/-- The object that a reply holds. -/
def Reply.read {α : Type} (decoder : Decoder α) : Reply → Except RequestError α
  | .failed reason => .error (.transport reason)
  | .garbled _ fault => .error (.encoding fault)
  | .answered code body =>
      if isErrorCode code then .error (.server (.ofAnswer code body))
      else (decoder.ofText body).mapError .malformed

/-- The API server, by its replies to requests for targets. -/
structure ApiServer where
  reply : (target : Http.Target) → Reply

namespace ApiServer

variable {α : Type}

def request (server : ApiServer) (decoder : Decoder α) (query : Query) : Except RequestError α := do
  let target ← query.target.mapError .target
  (server.reply target).read decoder

/-- Reports the outcome of a request, an error as the cause of a failed lookup. -/
def report (query : Query) (result : Except RequestError α) : Except Failure α :=
  result.mapError fun error => ⟨("failed to get " ++ query.subject) :: error.causes⟩

/-- Looks an extension up. Only an error of the server that says so means that
there is none. -/
def extension (server : ApiServer) (namespaceName name : String) :
    Except Failure (Option Extension) :=
  let query := Query.extension namespaceName name
  match server.request Extension.shape.decoder query with
  | .ok found => .ok (some found)
  | .error (.server error) =>
      if error.isNotFound then .ok none else report query (.error (.server error))
  | .error error => report query (.error error)

def cluster (server : ApiServer) (name : String) : Except Failure Cluster :=
  let query := Query.cluster name
  report query (server.request Cluster.shape.decoder query)

def infrastructure (server : ApiServer) (namespaceName name : String) :
    Except Failure Infrastructure :=
  let query := Query.infrastructure namespaceName name
  report query (server.request Infrastructure.shape.decoder query)

/-- The lookups against a server that replies at once. -/
def lookup (server : ApiServer) : Lookup where
  extension namespaceName name := .now (server.extension namespaceName name)
  cluster name := .now (server.cluster name)
  infrastructure namespaceName name := .now (server.infrastructure namespaceName name)

end ApiServer

end GatewayAcl
