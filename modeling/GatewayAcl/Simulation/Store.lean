import GatewayAcl.Lookup.Basic

/-!
# Simulated stores

A store of objects that stands in for the API server. Lookups can be told to take
their time, to fail or to hang. The clock is simulated too, so waiting costs
nothing.
-/

namespace GatewayAcl.Simulation

open Kube

inductive ObjectKind where
  | extension
  | cluster
  | infrastructure
  deriving DecidableEq, Repr

def ObjectKind.known : List (String × ObjectKind) :=
  [("extension", .extension), ("cluster", .cluster), ("infrastructure", .infrastructure)]

inductive StoredObject where
  | extension (object : Extension)
  | cluster (object : Cluster)
  | infrastructure (object : Infrastructure)

def StoredObject.decode (kind : ObjectKind) (json : Json) : Except DecodeError StoredObject :=
  match kind with
  | .extension => (Extension.shape.decoder.ofJson json).map .extension
  | .cluster => (Cluster.shape.decoder.ofJson json).map .cluster
  | .infrastructure => (Infrastructure.shape.decoder.ofJson json).map .infrastructure

/-- How the lookups of one kind behave. -/
structure Behaviour where
  delay : Duration := ⟨0⟩
  hangs : Bool := false
  /-- What every lookup fails with, unless it is empty. -/
  failure : List String := []

/-- What comes of a lookup that would have a result. -/
def Behaviour.outcome {α : Type} (behaviour : Behaviour) (result : Except Failure α) : Outcome α :=
  if behaviour.hangs then .never
  else if behaviour.failure.isEmpty then .finished behaviour.delay result
  else .finished behaviour.delay (.error ⟨behaviour.failure⟩)

/-- The place of an object. Clusters are at home in no namespace. -/
structure Key where
  namespaceName : String
  name : String
  deriving DecidableEq, Repr

/-- The place of an object by what it says about itself, as a plain value. -/
def Key.ofJson (json : Json) : Key :=
  let text (name : String) :=
    (json.member? "metadata" >>= (·.member? name) >>= Json.string?).getD ""
  ⟨text "namespace", text "name"⟩

/-- The objects, and how lookups behave. -/
structure Store where
  extension? : Key → Option Extension := fun _ => none
  cluster? : String → Option Cluster := fun _ => none
  infrastructure? : Key → Option Infrastructure := fun _ => none
  behaviour : ObjectKind → Behaviour := fun _ => {}

namespace Store

/-- A function with another value at one argument. -/
def update {α β : Type} [DecidableEq α] (function : α → β) (argument : α) (value : β) : α → β :=
  fun other => if other = argument then value else function other

/-- Puts an object into its place, instead of the one that is there. -/
def put (store : Store) (key : Key) : StoredObject → Store
  | .extension object => { store with extension? := update store.extension? key (some object) }
  | .cluster object => { store with cluster? := update store.cluster? key.name (some object) }
  | .infrastructure object =>
      { store with infrastructure? := update store.infrastructure? key (some object) }

def has (store : Store) (kind : ObjectKind) (key : Key) : Bool :=
  match kind with
  | .extension => (store.extension? key).isSome
  | .cluster => (store.cluster? key.name).isSome
  | .infrastructure => (store.infrastructure? key).isSome

def delete (store : Store) (kind : ObjectKind) (key : Key) : Store :=
  match kind with
  | .extension => { store with extension? := update store.extension? key none }
  | .cluster => { store with cluster? := update store.cluster? key.name none }
  | .infrastructure => { store with infrastructure? := update store.infrastructure? key none }

/-- Lets the lookups of a kind behave in a certain way from now on. -/
def behave (store : Store) (kind : ObjectKind) (behaviour : Behaviour) : Store :=
  { store with behaviour := update store.behaviour kind behaviour }

/-- What is found at a place, or the failure that nothing is there. -/
def found {α : Type} (description : String) : Option α → Except Failure α
  | some object => .ok object
  | none => .error ⟨[description ++ " not found"]⟩

def lookup (store : Store) : Lookup where
  extension namespaceName name :=
    (store.behaviour .extension).outcome (.ok (store.extension? ⟨namespaceName, name⟩))
  cluster name :=
    (store.behaviour .cluster).outcome (found ("clusters " ++ name) (store.cluster? name))
  infrastructure namespaceName name :=
    (store.behaviour .infrastructure).outcome
      (found ("infrastructures " ++ namespaceName ++ "/" ++ name)
        (store.infrastructure? ⟨namespaceName, name⟩))

end Store

end GatewayAcl.Simulation
