import GatewayAcl.Admission.Mutator
import GatewayAcl.Proofs.Results

/-!
# What inquiries come to

When each part of an inquiry has a value, said once for the outcome of a lookup,
for the spec of a request and for the rule of an extension.  Whatever else is
proved about the mutator starts from these.
-/

namespace GatewayAcl

open Kube Net

/-- A lookup completes within a bound, without error, and yields a value. -/
def Outcome.Yields {α : Type} (bound : Duration) (outcome : Outcome α) (value : α) : Prop :=
  ∃ after, outcome = .finished after (.ok value) ∧ after ≤ bound

theorem Outcome.within_eq_ok_iff {α : Type} {bound : Duration} {outcome : Outcome α}
    {value : α} : outcome.within bound = .ok value ↔ outcome.Yields bound value := by
  cases outcome with
  | never => simp [within, Yields]
  | finished after result =>
      by_cases inTime : after ≤ bound
      · rw [within, if_pos inTime, except_mapError_eq_ok_iff]
        constructor
        · rintro rfl
          exact ⟨after, rfl, inTime⟩
        · rintro ⟨_, same, _⟩
          cases same
          rfl
      · rw [within, if_neg inTime]
        constructor
        · intro timedOut
          cases timedOut
        · rintro ⟨_, same, inTime'⟩
          cases same
          exact absurd inTime' inTime

theorem Outcome.Yields.unique {α : Type} {bound : Duration} {outcome : Outcome α}
    {left right : α} (yieldsLeft : outcome.Yields bound left)
    (yieldsRight : outcome.Yields bound right) : left = right := by
  obtain ⟨after, rfl, _⟩ := yieldsLeft
  obtain ⟨_, same, _⟩ := yieldsRight
  cases same
  rfl

namespace Kube

/-- What an object is called: its name, or else the stem that a name is to be made from, or
else nothing. -/
inductive ObjectMeta.IsCalled (metadata : ObjectMeta) : (name : String) → Prop where
  | named {name : String} : metadata.name = some name → metadata.IsCalled name
  | generated {stem : String} : metadata.name = none → metadata.generateName = some stem →
      metadata.IsCalled stem
  | unnamed : metadata.name = none → metadata.generateName = none → metadata.IsCalled ""

theorem ObjectMeta.isCalled_iff {metadata : ObjectMeta} {name : String} :
    metadata.IsCalled name ↔ metadata.anyName = name := by
  constructor
  · rintro (isNamed | ⟨noName, isStem⟩ | ⟨noName, noStem⟩)
    · simp [anyName, isNamed]
    · simp [anyName, noName, isStem]
    · simp [anyName, noName, noStem]
  · rintro rfl
    rw [anyName]
    cases isNamed : metadata.name with
    | some name => exact .named isNamed
    | none =>
        cases isStem : metadata.generateName with
        | some stem => exact .generated isNamed isStem
        | none => exact .unnamed isNamed isStem

/-- An extension has a part that keeps it from asking for a rule: another type, a
date of deletion, no provider configuration, or one that has no rule. -/
def Extension.AsksForNothing (extension : Extension) : Prop :=
  extension.spec.extensionType ≠ "acl" ∨
    extension.metadata.deletionTimestamp ≠ none ∨
    extension.spec.providerConfig = none ∨
    ∃ raw config, extension.spec.providerConfig = some raw ∧
      ProviderConfig.decode raw = .ok config ∧ config.rule = none

/-- An extension is in force and carries a draft that is a valid rule. -/
structure Extension.AsksFor (extension : Extension) (rule : Rule) : Prop where
  isAcl : extension.spec.extensionType = "acl"
  remains : extension.metadata.deletionTimestamp = none
  carries : ∃ raw draft, extension.spec.providerConfig = some raw ∧
    ProviderConfig.decode raw = .ok ⟨some draft⟩ ∧ Rule.validate (some draft) = .ok rule

/-- An extension is in force if it is of the type for rules and is not being
deleted. -/
theorem Extension.inForce_iff (extension : Extension) :
    (extension.isAcl && !extension.isDeleting) = true ↔
      extension.spec.extensionType = "acl" ∧
        extension.metadata.deletionTimestamp = none := by
  simp [Extension.isAcl, Extension.aclType, Extension.isDeleting]

/-- The draft of a spec is the rule in its provider configuration. -/
theorem ExtensionSpec.draft?_eq_ok_iff {spec : ExtensionSpec} {draft? : Option DraftRule} :
    spec.draft? = .ok draft? ↔
      (spec.providerConfig = none ∧ draft? = none) ∨
        ∃ raw, spec.providerConfig = some raw ∧ ProviderConfig.decode raw = .ok ⟨draft?⟩ := by
  unfold ExtensionSpec.draft?
  cases spec.providerConfig with
  | none => simp [eq_comm]
  | some raw =>
      simp only [except_map_eq_ok_iff, except_mapError_eq_ok_iff, reduceCtorEq, false_and,
        false_or, Option.some.injEq, exists_eq_left']
      constructor
      · rintro ⟨⟨rule⟩, decoded, rfl⟩
        exact decoded
      · intro decoded
        exact ⟨_, decoded, rfl⟩

/-- An extension in force asks for no rule if its spec has no draft. -/
theorem Extension.asksForNothing_iff_draft {extension : Extension}
    (isAcl : extension.spec.extensionType = "acl")
    (remains : extension.metadata.deletionTimestamp = none) :
    extension.AsksForNothing ↔ extension.spec.draft? = .ok none := by
  rw [ExtensionSpec.draft?_eq_ok_iff]
  constructor
  · rintro (otherType | deleting | unconfigured | ⟨raw, ⟨rule⟩, configured, decoded, noRule⟩)
    · exact absurd isAcl otherType
    · exact absurd remains deleting
    · exact .inl ⟨unconfigured, rfl⟩
    · cases noRule
      exact .inr ⟨raw, configured, decoded⟩
  · rintro (⟨unconfigured, _⟩ | ⟨raw, configured, decoded⟩)
    · exact .inr (.inr (.inl unconfigured))
    · exact .inr (.inr (.inr ⟨raw, ⟨none⟩, configured, decoded, rfl⟩))

theorem Extension.rule?_eq_none_iff (extension : Extension) :
    extension.rule? = .ok none ↔ extension.AsksForNothing := by
  unfold Extension.rule?
  by_cases inForce : (extension.isAcl && !extension.isDeleting) = true
  · obtain ⟨isAcl, remains⟩ := extension.inForce_iff.mp inForce
    rw [if_pos inForce, Extension.asksForNothing_iff_draft isAcl remains]
    cases extension.spec.draft? with
    | error rejection => simp
    | ok draft? =>
        cases draft? with
        | none => simp
        | some draft => simp [except_map_eq_ok_iff]
  · have outOfForce := mt extension.inForce_iff.mpr inForce
    rw [if_neg inForce]
    simp only [true_iff]
    by_cases isAcl : extension.spec.extensionType = "acl"
    · exact .inr (.inl fun remains => outOfForce ⟨isAcl, remains⟩)
    · exact .inl isAcl

theorem Extension.rule?_eq_some_iff (extension : Extension) (rule : Rule) :
    extension.rule? = .ok (some rule) ↔ extension.AsksFor rule := by
  unfold Extension.rule?
  by_cases inForce : (extension.isAcl && !extension.isDeleting) = true
  · obtain ⟨isAcl, remains⟩ := extension.inForce_iff.mp inForce
    rw [if_pos inForce]
    constructor
    · intro asked
      cases drafted : extension.spec.draft? with
      | error rejection => simp [drafted] at asked
      | ok draft? =>
          cases draft? with
          | none => simp [drafted] at asked
          | some draft =>
              have valid : Rule.validate (some draft) = .ok rule := by
                simpa [drafted, except_map_eq_ok_iff, except_mapError_eq_ok_iff] using asked
              rcases ExtensionSpec.draft?_eq_ok_iff.mp drafted with
                ⟨_, noDraft⟩ | ⟨raw, configured, decoded⟩
              · cases noDraft
              · exact ⟨isAcl, remains, raw, draft, configured, decoded, valid⟩
    · rintro ⟨_, _, raw, draft, configured, decoded, valid⟩
      have drafted : extension.spec.draft? = .ok (some draft) :=
        ExtensionSpec.draft?_eq_ok_iff.mpr (.inr ⟨raw, configured, decoded⟩)
      simp [drafted, valid, Except.map]
  · have outOfForce := mt extension.inForce_iff.mpr inForce
    rw [if_neg inForce]
    constructor
    · intro asked
      cases asked
    · intro asks
      exact absurd ⟨asks.isAcl, asks.remains⟩ outOfForce

end Kube

namespace Admission

theorem Inquiry.ofResult_ok_bind {α β : Type} (value : α) (next : α → Inquiry β) :
    (Inquiry.ofResult (.ok value) >>= next) = next value :=
  rfl

theorem Request.readSpec_eq_ok_iff {α : Type} {request : Request} {decoder : Decoder α}
    {object : SubmittedObject} {spec : α} :
    request.readSpec decoder = .ok (object, spec) ↔
      request.object = some object ∧
        ∃ json, object.spec = some json ∧ decoder.ofJson json = .ok spec := by
  unfold readSpec
  cases request.object with
  | none => simp
  | some submitted =>
      simp only [Option.some.injEq]
      cases json? : submitted.spec with
      | none =>
          simp only [reduceCtorEq, false_iff]
          rintro ⟨rfl, json, found, _⟩
          cases json?.symm.trans found
      | some json =>
          simp only [except_map_eq_ok_iff, except_mapError_eq_ok_iff, Prod.mk.injEq]
          constructor
          · rintro ⟨_, decoded, rfl, rfl⟩
            exact ⟨rfl, json, json?, decoded⟩
          · rintro ⟨rfl, other, found, decoded⟩
            cases json?.symm.trans found
            exact ⟨spec, decoded, rfl, rfl⟩

/-- A request, for anything but a deletion, holds an object with a property. -/
structure Request.Brings (request : Request) (property : SubmittedObject → Prop) : Prop where
  remains : request.operation ≠ .delete
  holds : ∃ object, request.object = some object ∧ property object

/-- A request submits an object of a name with a spec, for anything but its deletion. -/
structure Request.Presents (request : Request) (name : String) (spec : EnvoyFilterSpec) :
    Prop extends request.Brings fun object =>
      object.metadata.IsCalled name ∧ ∃ json, object.spec = some json ∧
        EnvoyFilterSpec.shape.decoder.ofJson json = .ok spec

namespace Mutator

theorem belongsToShoot_iff (name : String) :
    belongsToShoot name = true ↔ "shoot--".toList <+: name.toList := by
  simp [belongsToShoot, shootMark]

/-- An object is admitted by its name and its spec. -/
theorem mutate_of_presents {mutator : Mutator} {request : Request} {name : String}
    {spec : EnvoyFilterSpec} (presents : request.Presents name spec) :
    mutator.mutate request =
      if belongsToShoot name then mutator.guardShoot name spec else pure none := by
  have ⟨object, holds, isCalled, json, hasSpec, decoded⟩ := presents.holds
  have read : request.readSpec EnvoyFilterSpec.shape.decoder = .ok (object, spec) :=
    Request.readSpec_eq_ok_iff.mpr ⟨holds, json, hasSpec, decoded⟩
  rw [mutate, if_neg presents.remains, read, Inquiry.ofResult_ok_bind,
    ← ObjectMeta.isCalled_iff.mp isCalled]

theorem result_ask_eq_ok_iff {α : Type} {bound : Duration} {query : Query}
    {outcome : Outcome α} {value : α} :
    (Inquiry.ask bound query outcome).result = .ok value ↔ outcome.Yields bound value := by
  rw [Inquiry.result_ask, except_mapError_eq_ok_iff, Outcome.within_eq_ok_iff]

/-- The patch of an object is a single replacement: where the search finds the filter
that passes connections on, the chain becomes the access filter and that one. -/
theorem splice_eq_ok_iff {spec : EnvoyFilterSpec} {name : String} {guard : Guard}
    {patch : Patch} :
    splice spec name guard = .ok patch ↔
      ∃ location, spec.findFilter? tcpProxyFilter = some location ∧
        patch = ⟨[⟨location.pointer, .array [guard.internal.encode, location.filter]⟩]⟩ := by
  unfold splice
  cases spec.findFilter? tcpProxyFilter with
  | none => simp
  | some location => simp [eq_comm]

/-- Where a shoot's object is admitted with a patch, a guard has been spliced in. -/
theorem result_guardShoot_eq_some {mutator : Mutator} {name : String} {spec : EnvoyFilterSpec}
    {patch : Patch} (patched : (mutator.guardShoot name spec).result = .ok (some patch)) :
    ∃ guard, splice spec name guard = .ok patch := by
  rw [guardShoot, Inquiry.result_bind] at patched
  obtain ⟨found, _, patched⟩ := except_bind_eq_ok_iff.mp patched
  cases found with
  | none => cases patched
  | some extension =>
      simp only [Inquiry.result_bind, Inquiry.result_ofResult] at patched
      obtain ⟨rule?, _, patched⟩ := except_bind_eq_ok_iff.mp patched
      cases rule? with
      | none => cases patched
      | some rule =>
          simp only [Inquiry.result_bind, Inquiry.result_ofResult, Inquiry.result_pure] at patched
          obtain ⟨exempt, _, patched⟩ := except_bind_eq_ok_iff.mp patched
          obtain ⟨spliced, isSpliced, same⟩ := except_bind_eq_ok_iff.mp patched
          cases same
          exact ⟨⟨rule, exempt⟩, isSpliced⟩

/-- Where a request is admitted with a patch, a guard has been spliced into its
object. -/
theorem result_mutate_eq_some {mutator : Mutator} {request : Request} {patch : Patch}
    (patched : (mutator.mutate request).result = .ok (some patch)) :
    ∃ object json spec guard, request.object = some object ∧ object.spec = some json ∧
      EnvoyFilterSpec.shape.decoder.ofJson json = .ok spec ∧
      splice spec object.metadata.anyName guard = .ok patch := by
  unfold mutate at patched
  by_cases deletion : request.operation = .delete
  · rw [if_pos deletion] at patched
    cases patched
  · rw [if_neg deletion, Inquiry.result_bind] at patched
    obtain ⟨⟨object, spec⟩, read, admitted⟩ := except_bind_eq_ok_iff.mp patched
    obtain ⟨holds, json, hasSpec, decoded⟩ := Request.readSpec_eq_ok_iff.mp read
    by_cases belongs : belongsToShoot object.metadata.anyName = true
    · simp only [belongs, if_true] at admitted
      obtain ⟨guard, spliced⟩ := result_guardShoot_eq_some admitted
      exact ⟨object, json, spec, guard, holds, hasSpec, decoded, spliced⟩
    · simp only [belongs] at admitted
      cases admitted

end Mutator

end Admission

end GatewayAcl
