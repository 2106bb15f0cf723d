import GatewayAcl.Admission.Service
import GatewayAcl.Simulation.Store

/-!
# Sessions

A session is the life of one service over a simulated store: objects come and go,
requests are made, and answers are counted.
-/

namespace GatewayAcl.Simulation

open Admission Kube

/-- A service, its store, its metrics, and the object that was patched last. -/
structure Session where
  settings : Settings := .default
  registry : Registry := .standard
  store : Store := {}
  metrics : Metrics := .empty
  patched : Option Json := none

namespace Session

def mutator (session : Session) : Mutator :=
  .ofSettings session.store.lookup session.registry session.settings

def validator (session : Session) : Validator :=
  .ofSettings session.settings

def service (session : Session) : Service :=
  ⟨session.mutator, session.validator⟩

def request (operation : Operation) (object : Option Json) : Except DecodeError Request := do
  let object ← object.mapM SubmittedObject.decoder.ofJson
  .ok (.blank operation object)

def mutate (session : Session) (operation : Operation) (object : Option Json) :
    Except DecodeError (Inquiry (Option Patch)) := do
  let request ← request operation object
  .ok (session.mutator.mutate request)

def validate (session : Session) (operation : Operation) (object : Option Json) :
    Except DecodeError (Except Rejection Unit) := do
  let request ← request operation object
  .ok (session.validator.validate request)

/-- The object with a patch applied, if both are there and fit each other. -/
def applied (object : Option Json) (patch : Option Patch) : Option Json := do
  (← patch).applyTo? (← object)

/-- Handles an HTTP request and counts the answer. -/
def serve (session : Session) (request : Http.Request) :
    Session × Handling (Except ServiceError HttpAnswer) :=
  let handling := session.service.handle request
  ({ session with metrics := Service.record session.metrics handling }, handling)

end Session

end GatewayAcl.Simulation
