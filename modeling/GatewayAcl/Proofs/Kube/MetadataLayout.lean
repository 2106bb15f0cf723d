import GatewayAcl.Kube.ObjectMeta
import GatewayAcl.Proofs.Json.Layouts

/-!
# The layout of object metadata

Metadata without timestamps survives being written.  A timestamp need not: a moment can be
written in several ways.
-/

namespace GatewayAcl

namespace Part

variable {α : Type}

/-- A text that is always written, and is empty if null or nothing is given. -/
def text (name : String) (get : α → String) : Part α where
  name := name
  Reads given record :=
    ∃ value, Decoder.string.option.member none given = .ok value ∧ value.getD "" = get record
  write record := some (.string (get record))

section Kinds

variable (name : String) (get : α → String) (record : α)

@[simp] theorem name_text : (text name get).name = name := rfl

@[simp] theorem reads_text (given : Option Json) :
    (text name get).Reads given record ↔
      ∃ value, Decoder.string.option.member none given = .ok value ∧
        value.getD "" = get record := Iff.rfl

@[simp] theorem members_text :
    (text name get).members record = [(name, .string (get record))] := rfl

end Kinds

theorem restores_text {name : String} {get : α → String} {record : α} :
    (text name get).Restores record := by
  intro _ _ _
  constructor
  · exact ⟨some (get record), rfl, rfl⟩
  · intro json isText
    cases isText
    exact .string (get record)

end Part

namespace Kube

namespace ManagedFields

def parts : List (Part ManagedFields) := [
  .optional "apiVersion" .string .string apiVersion,
  .optional "fieldsType" .string .string fieldsType,
  .optional "fieldsV1" .json id fields,
  .optional "manager" .string .string manager,
  .optional "operation" .string .string operation,
  .optional "subresource" .string .string subresource,
  .optional "time" .timestamp (.string ∘ Timestamp.print) time]

theorem layout : Layout shape encode parts where
  orderly := {
    distinct := by decide
    commutes := by simp [shape, Field.optional, Field.defaulted, Field.commutes_of_set] }
  names := rfl
  assembles given entry := by
    cases entry
    simp only [shape, parts, Shape.assembles_optional_iff, Shape.assembles_nil_iff,
      List.forall_mem_cons, List.not_mem_nil, false_implies, implies_true, Part.name_optional,
      Part.reads_optional]
    grind
  encode_eq entry := by simp [encode, parts]

theorem restores {entry : ManagedFields} (timeless : entry.time = none) :
    shape.decoder.Restores encode entry := by
  apply layout.restores
  simp [parts, Part.restores_optional_of_exact, Decoder.exact_string, Decoder.exact_json,
    Part.restores_optional_of_none timeless]

end ManagedFields

namespace OwnerReference

def parts : List (Part OwnerReference) := [
  .text "apiVersion" apiVersion,
  .optional "blockOwnerDeletion" .bool .bool blockOwnerDeletion,
  .optional "controller" .bool .bool controller,
  .text "kind" kind,
  .text "name" name,
  .text "uid" uid]

theorem layout : Layout shape encode parts where
  orderly := {
    distinct := by decide
    commutes := by simp [shape, Field.optional, Field.defaulted, Field.commutes_of_set] }
  names := rfl
  assembles given owner := by
    cases owner
    simp only [shape, parts, Shape.assembles_optional_iff, Shape.assembles_nil_iff,
      Option.getD_none, List.forall_mem_cons, List.not_mem_nil, false_implies, implies_true,
      Part.name_optional, Part.reads_optional, Part.name_text, Part.reads_text]
    grind
  encode_eq owner := by simp [encode, parts]

theorem restores (owner : OwnerReference) : shape.decoder.Restores encode owner := by
  apply layout.restores
  simp [parts, Part.restores_text, Part.restores_optional_of_exact, Decoder.exact_bool]

end OwnerReference

namespace ObjectMeta

def parts : List (Part ObjectMeta) := [
  .optional "annotations" (.dictionary .string) encodeTexts annotations,
  .optional "creationTimestamp" .timestamp (.string ∘ Timestamp.print) creationTimestamp,
  .optional "deletionGracePeriodSeconds" .i64 .ofInt deletionGracePeriodSeconds,
  .optional "deletionTimestamp" .timestamp (.string ∘ Timestamp.print) deletionTimestamp,
  .optional "finalizers" (.list .string) (fun names => .array (names.map .string)) finalizers,
  .optional "generateName" .string .string generateName,
  .optional "generation" .i64 .ofInt generation,
  .optional "labels" (.dictionary .string) encodeTexts labels,
  .optional "managedFields" (.list ManagedFields.shape.decoder)
    (fun entries => .array (entries.map ManagedFields.encode)) managedFields,
  .optional "name" .string .string name,
  .optional "namespace" .string .string namespaceName,
  .optional "ownerReferences" (.list OwnerReference.shape.decoder)
    (fun owners => .array (owners.map OwnerReference.encode)) ownerReferences,
  .optional "resourceVersion" .string .string resourceVersion,
  .optional "selfLink" .string .string selfLink,
  .optional "uid" .string .string uid]

theorem layout : Layout shape encode parts where
  orderly := {
    distinct := by decide
    commutes := by simp [shape, Field.optional, Field.defaulted, Field.commutes_of_set] }
  names := rfl
  assembles given metadata := by
    cases metadata
    simp only [shape, parts, Shape.assembles_optional_iff, Shape.assembles_nil_iff,
      List.forall_mem_cons, List.not_mem_nil, false_implies, implies_true, Part.name_optional,
      Part.reads_optional]
    grind
  encode_eq metadata := by simp [encode, parts]

/-- No timestamp stands anywhere in the metadata. -/
structure Timeless (metadata : ObjectMeta) : Prop where
  creation : metadata.creationTimestamp = none
  deletion : metadata.deletionTimestamp = none
  managed : ∀ entries, metadata.managedFields = some entries → ∀ entry ∈ entries, entry.time = none

theorem exact_texts : (Decoder.dictionary .string).Exact encodeTexts :=
  Decoder.exact_string.dictionary

theorem exact_names : (Decoder.list .string).Exact fun names => .array (names.map .string) :=
  Decoder.exact_string.list

theorem exact_i64 : Decoder.i64.Exact .ofInt :=
  Decoder.exact_integer _ _ _

theorem restores {metadata : ObjectMeta} (timeless : metadata.Timeless) :
    shape.decoder.Restores encode metadata := by
  have managedFields (entries : List ManagedFields)
      (found : metadata.managedFields = some entries) :
      (Decoder.list ManagedFields.shape.decoder).Restores
        (fun entries => .array (entries.map ManagedFields.encode)) entries :=
    .list fun entry member => ManagedFields.restores (timeless.managed entries found entry member)
  have ownerReferences (owners : List OwnerReference) :
      (Decoder.list OwnerReference.shape.decoder).Restores
        (fun owners => .array (owners.map OwnerReference.encode)) owners :=
    .list fun owner _ => owner.restores
  apply layout.restores
  simp [parts, Part.restores_optional_of_exact, exact_texts, exact_names, exact_i64,
    Decoder.exact_string, Part.restores_optional_of_none timeless.creation,
    Part.restores_optional_of_none timeless.deletion, Part.restores_optional managedFields,
    Part.restores_optional fun owners _ => ownerReferences owners]

end ObjectMeta

end Kube

end GatewayAcl
