import GatewayAcl.Kube.Cluster
import GatewayAcl.Kube.Extension
import GatewayAcl.Kube.Infrastructure
import GatewayAcl.Time.Duration

/-!
# Lookups

Deciding about an object takes up to three other objects, which have to be looked
up. A lookup can take its time, fail, or never end, so what comes of it is a value
of its own, and a bound on the time turns that into a result.
-/

namespace GatewayAcl

open Kube

/-- A question for one object. -/
inductive Query where
  | extension (namespaceName name : String)
  | cluster (name : String)
  | infrastructure (namespaceName name : String)
  deriving DecidableEq, Repr

/-- Why a lookup failed: what went wrong, then what caused that, down to the root
cause. -/
structure Failure where
  causes : List String
  deriving DecidableEq, Repr

/-- The wording of a failure, with all of its causes. -/
def Failure.message (failure : Failure) : String :=
  String.intercalate ": " failure.causes

/-- What comes of a lookup. -/
inductive Outcome (α : Type) where
  | finished (after : Duration) (result : Except Failure α)
  | never

/-- Why there is no result within a bound. -/
inductive LookupError where
  | failed (failure : Failure)
  | timedOut (bound : Duration)
  deriving DecidableEq, Repr

def LookupError.message : LookupError → String
  | .failed failure => failure.message
  | .timedOut bound => "lookup timed out after " ++ bound.print

namespace Outcome

variable {α : Type}

/-- The outcome of a lookup that takes no time. -/
def now (result : Except Failure α) : Outcome α :=
  .finished ⟨0⟩ result

/-- The result of a lookup that must not take longer than a bound. -/
def within (bound : Duration) : Outcome α → Except LookupError α
  | .finished after result =>
      if after ≤ bound then result.mapError .failed else .error (.timedOut bound)
  | .never => .error (.timedOut bound)

end Outcome

/-- A way to look objects up. Only an extension may be absent; that another object
is absent is a failure. -/
structure Lookup where
  extension : (namespaceName name : String) → Outcome (Option Extension)
  cluster : (name : String) → Outcome Cluster
  infrastructure : (namespaceName name : String) → Outcome Infrastructure

end GatewayAcl
