import GatewayAcl.Json.Shape

/-!
# Object metadata

What every object of the cluster's API says about itself: its name, its
namespace, its labels, and the like. All of it is optional, what is not listed
here is ignored, and a repeated member replaces the one before it.
-/

namespace GatewayAcl.Kube

/-- Who manages which of an object's fields. -/
structure ManagedFields where
  apiVersion : Option String
  fieldsType : Option String
  fields : Option Json
  manager : Option String
  operation : Option String
  subresource : Option String
  time : Option Timestamp

namespace ManagedFields

def shape : Shape ManagedFields where
  name := "ManagedFieldsEntry"
  strictness := .keyedOnly
  blank := ⟨none, none, none, none, none, none, none⟩
  fields := [
    .optional "apiVersion" .string fun entry value => { entry with apiVersion := value },
    .optional "fieldsType" .string fun entry value => { entry with fieldsType := value },
    .optional "fieldsV1" .json fun entry value => { entry with fields := value },
    .optional "manager" .string fun entry value => { entry with manager := value },
    .optional "operation" .string fun entry value => { entry with operation := value },
    .optional "subresource" .string fun entry value => { entry with subresource := value },
    .optional "time" .timestamp fun entry value => { entry with time := value }]

def encode (entry : ManagedFields) : Json :=
  .record <|
    Json.optionalMember "apiVersion" .string entry.apiVersion ++
    Json.optionalMember "fieldsType" .string entry.fieldsType ++
    Json.optionalMember "fieldsV1" id entry.fields ++
    Json.optionalMember "manager" .string entry.manager ++
    Json.optionalMember "operation" .string entry.operation ++
    Json.optionalMember "subresource" .string entry.subresource ++
    Json.optionalMember "time" (.string ∘ Timestamp.print) entry.time

end ManagedFields

structure OwnerReference where
  apiVersion : String
  blockOwnerDeletion : Option Bool
  controller : Option Bool
  kind : String
  name : String
  uid : String

namespace OwnerReference

/-- The shape of an owner reference. A text that is missing or null is empty. -/
def shape : Shape OwnerReference where
  name := "OwnerReference"
  strictness := .keyedOnly
  blank := ⟨"", none, none, "", "", ""⟩
  fields := [
    .optional "apiVersion" .string fun owner value => { owner with apiVersion := value.getD "" },
    .optional "blockOwnerDeletion" .bool fun owner value =>
      { owner with blockOwnerDeletion := value },
    .optional "controller" .bool fun owner value => { owner with controller := value },
    .optional "kind" .string fun owner value => { owner with kind := value.getD "" },
    .optional "name" .string fun owner value => { owner with name := value.getD "" },
    .optional "uid" .string fun owner value => { owner with uid := value.getD "" }]

def encode (owner : OwnerReference) : Json :=
  .record <|
    [("apiVersion", .string owner.apiVersion)] ++
    Json.optionalMember "blockOwnerDeletion" .bool owner.blockOwnerDeletion ++
    Json.optionalMember "controller" .bool owner.controller ++
    [("kind", .string owner.kind), ("name", .string owner.name), ("uid", .string owner.uid)]

end OwnerReference

structure ObjectMeta where
  annotations : Option (Dictionary String) := none
  creationTimestamp : Option Timestamp := none
  deletionGracePeriodSeconds : Option Int := none
  deletionTimestamp : Option Timestamp := none
  finalizers : Option (List String) := none
  generateName : Option String := none
  generation : Option Int := none
  labels : Option (Dictionary String) := none
  managedFields : Option (List ManagedFields) := none
  name : Option String := none
  namespaceName : Option String := none
  ownerReferences : Option (List OwnerReference) := none
  resourceVersion : Option String := none
  selfLink : Option String := none
  uid : Option String := none

namespace ObjectMeta

def shape : Shape ObjectMeta where
  name := "ObjectMeta"
  strictness := .keyedOnly
  blank := {}
  fields := [
    .optional "annotations" (.dictionary .string) fun metadata value =>
      { metadata with annotations := value },
    .optional "creationTimestamp" .timestamp fun metadata value =>
      { metadata with creationTimestamp := value },
    .optional "deletionGracePeriodSeconds" .i64 fun metadata value =>
      { metadata with deletionGracePeriodSeconds := value },
    .optional "deletionTimestamp" .timestamp fun metadata value =>
      { metadata with deletionTimestamp := value },
    .optional "finalizers" (.list .string) fun metadata value =>
      { metadata with finalizers := value },
    .optional "generateName" .string fun metadata value => { metadata with generateName := value },
    .optional "generation" .i64 fun metadata value => { metadata with generation := value },
    .optional "labels" (.dictionary .string) fun metadata value =>
      { metadata with labels := value },
    .optional "managedFields" (.list ManagedFields.shape.decoder) fun metadata value =>
      { metadata with managedFields := value },
    .optional "name" .string fun metadata value => { metadata with name := value },
    .optional "namespace" .string fun metadata value => { metadata with namespaceName := value },
    .optional "ownerReferences" (.list OwnerReference.shape.decoder) fun metadata value =>
      { metadata with ownerReferences := value },
    .optional "resourceVersion" .string fun metadata value =>
      { metadata with resourceVersion := value },
    .optional "selfLink" .string fun metadata value => { metadata with selfLink := value },
    .optional "uid" .string fun metadata value => { metadata with uid := value }]

/-- Texts under names, as an object. -/
def encodeTexts (texts : Dictionary String) : Json :=
  .object (texts.entries.map fun (name, text) => (name, .string text))

def encode (metadata : ObjectMeta) : Json :=
  .record <|
    Json.optionalMember "annotations" encodeTexts metadata.annotations ++
    Json.optionalMember "creationTimestamp" (.string ∘ Timestamp.print)
      metadata.creationTimestamp ++
    Json.optionalMember "deletionGracePeriodSeconds" .ofInt metadata.deletionGracePeriodSeconds ++
    Json.optionalMember "deletionTimestamp" (.string ∘ Timestamp.print)
      metadata.deletionTimestamp ++
    Json.optionalMember "finalizers" (fun names => .array (names.map .string))
      metadata.finalizers ++
    Json.optionalMember "generateName" .string metadata.generateName ++
    Json.optionalMember "generation" .ofInt metadata.generation ++
    Json.optionalMember "labels" encodeTexts metadata.labels ++
    Json.optionalMember "managedFields" (fun entries => .array (entries.map ManagedFields.encode))
      metadata.managedFields ++
    Json.optionalMember "name" .string metadata.name ++
    Json.optionalMember "namespace" .string metadata.namespaceName ++
    Json.optionalMember "ownerReferences" (fun owners => .array (owners.map OwnerReference.encode))
      metadata.ownerReferences ++
    Json.optionalMember "resourceVersion" .string metadata.resourceVersion ++
    Json.optionalMember "selfLink" .string metadata.selfLink ++
    Json.optionalMember "uid" .string metadata.uid

/-- What the object is called: its name, or the stem that a name is to be made
from, or nothing. -/
def anyName (metadata : ObjectMeta) : String :=
  (metadata.name <|> metadata.generateName).getD ""

end ObjectMeta

end GatewayAcl.Kube
