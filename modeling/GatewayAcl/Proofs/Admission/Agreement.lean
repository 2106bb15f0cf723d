import GatewayAcl.Admission.Validator
import GatewayAcl.Proofs.Admission.Readmission
import GatewayAcl.Proofs.Kube.Extensions

/-!
# Agreement of the two checks

An extension is checked twice: by the validator when it is submitted, and by the mutator
whenever an object of its shoot is admitted.  The validator refuses one thing more, a rule
with too many CIDRs.  Apart from that the two checks come to the same, so a rule that was
admitted is never what a gateway object is rejected for.
-/

namespace GatewayAcl

open Admission Kube

namespace Kube

variable {extension : Extension}

/-- The draft in a spec lists more CIDRs than a limit. -/
def ExtensionSpec.Exceeds (spec : ExtensionSpec) (limit : Nat) : Prop :=
  ∃ raw draft, spec.providerConfig = some raw ∧ ProviderConfig.decode raw = .ok ⟨some draft⟩ ∧
    limit < draft.cidrs.length

theorem ExtensionSpec.exceeds_of_draft? {spec : ExtensionSpec} {draft : DraftRule} {limit : Nat}
    (drafted : spec.draft? = .ok (some draft)) (above : limit < draft.cidrs.length) :
    spec.Exceeds limit := by
  cases ExtensionSpec.draft?_eq_ok_iff.mp drafted with
  | inl unconfigured => cases unconfigured.2
  | inr configured =>
      have ⟨raw, isConfig, decoded⟩ := configured
      exact ⟨raw, draft, isConfig, decoded, above⟩

/-- What is wrong with a provider configuration is the fault of who submitted it. -/
theorem ExtensionSpec.code_of_draft?_eq_error {spec : ExtensionSpec} {rejection : Rejection}
    (refused : spec.draft? = .error rejection) : rejection.code = 400 := by
  unfold ExtensionSpec.draft? at refused
  split at refused
  · cases refused
  · rw [except_map_eq_error_iff, except_mapError_eq_error_iff] at refused
    have ⟨error, _, isRejection⟩ := refused
    exact isRejection ▸ rfl

/-- What is wrong with a rule is the fault of who submitted it. -/
theorem Extension.code_of_rule?_eq_error {rejection : Rejection}
    (refused : extension.rule? = .error rejection) : rejection.code = 400 := by
  unfold Extension.rule? at refused
  split at refused
  · cases drafted : extension.spec.draft? with
    | error other =>
        simp only [drafted] at refused
        cases refused
        exact ExtensionSpec.code_of_draft?_eq_error drafted
    | ok draft? =>
        cases draft? with
        | none =>
            simp only [drafted] at refused
            cases refused
        | some draft =>
            simp only [drafted, except_map_eq_error_iff, except_mapError_eq_error_iff] at refused
            have ⟨error, _, isRejection⟩ := refused
            exact isRejection ▸ rfl
  · cases refused

end Kube

namespace Admission

namespace Validator

variable {validator : Validator} {extension : Extension}

/-- The validator refuses a rule with too many CIDRs, and comes to the same as the mutator
otherwise. -/
theorem checkSpec_cases (validator : Validator)
    (remains : extension.metadata.deletionTimestamp = none) :
    (extension.spec.Exceeds validator.cidrLimit ∧
      ∃ error, validator.checkSpec extension.spec = .error (.tooManyCidrs error)) ∨
    validator.checkSpec extension.spec = extension.rule?.map fun _ => () := by
  by_cases isAcl : extension.spec.extensionType = "acl"
  · have inForce := extension.inForce_iff.mpr ⟨isAcl, remains⟩
    have isChecked : ¬ (extension.spec.extensionType != Extension.aclType) = true := by
      simpa [Extension.aclType] using isAcl
    rw [checkSpec, if_neg isChecked, Extension.rule?, if_pos inForce]
    cases drafted : extension.spec.draft? with
    | error rejection => exact .inr rfl
    | ok draft? =>
        cases draft? with
        | none => exact .inr rfl
        | some draft =>
            by_cases above : validator.cidrLimit < draft.cidrs.length
            · simp only [DraftRule.checkCount, if_pos above]
              exact .inl ⟨ExtensionSpec.exceeds_of_draft? drafted above, _, rfl⟩
            · simp only [DraftRule.checkCount, if_neg above, except_mapError_ok, except_bind_ok]
              cases Rule.validate (some draft) with
              | error error => exact .inr rfl
              | ok rule => exact .inr rfl
  · have notInForce := mt extension.inForce_iff.mp (fun inForce => isAcl inForce.1)
    have isOther : (extension.spec.extensionType != Extension.aclType) = true := by
      simpa [Extension.aclType] using isAcl
    rw [checkSpec, if_pos isOther, Extension.rule?, if_neg notInForce]
    exact .inr rfl

/-- What the validator refuses is the fault of the submitted rule: there are too many
CIDRs in it, or the mutator would refuse it too. -/
theorem checkSpec_eq_error (remains : extension.metadata.deletionTimestamp = none)
    {rejection : Rejection} (refused : validator.checkSpec extension.spec = .error rejection) :
    rejection.code = 400 ∧
      (extension.spec.Exceeds validator.cidrLimit ∨ extension.rule? = .error rejection) := by
  cases validator.checkSpec_cases remains with
  | inl tooMany =>
      have ⟨exceeds, error, isError⟩ := tooMany
      cases isError.symm.trans refused
      exact ⟨rfl, .inl exceeds⟩
  | inr same =>
      have asked := except_map_eq_error_iff.mp (same.symm.trans refused)
      exact ⟨Extension.code_of_rule?_eq_error asked, .inr asked⟩

/-- The validator refuses whatever the mutator refuses. -/
theorem exists_checkSpec_eq_error (validator : Validator)
    (remains : extension.metadata.deletionTimestamp = none) {rejection : Rejection}
    (refused : extension.rule? = .error rejection) :
    ∃ refusal, validator.checkSpec extension.spec = .error refusal := by
  cases validator.checkSpec_cases remains with
  | inl tooMany =>
      have ⟨_, error, isError⟩ := tooMany
      exact ⟨_, isError⟩
  | inr same => exact ⟨rejection, same.trans (except_map_eq_error_iff.mpr refused)⟩

/-- Submitted as an object, an extension is checked by its spec. -/
theorem validate_eq_checkSpec {members : List (String × Json)}
    (canonical : (Json.object members).Canonical)
    (decoded : Extension.shape.decoder.ofJson (.object members) = .ok extension)
    {submission : Request} (submits : submission.Submits (.object members)) :
    validator.validate submission = validator.checkSpec extension.spec := by
  have ⟨object, holds, decodedObject⟩ := submits.holds
  have ⟨spec, submitted, decodedSpec⟩ := Extension.exists_submitted canonical decoded
  cases submitted.symm.trans decodedObject
  have read : submission.readSpec ExtensionSpec.shape.decoder = .ok (_, extension.spec) :=
    Request.readSpec_eq_ok_iff.mpr ⟨holds, spec, rfl, decodedSpec⟩
  rw [validate, if_neg submits.remains, read]
  rfl

end Validator

namespace Mutator

variable {mutator : Mutator} {request : Request} {name : String} {spec : EnvoyFilterSpec}
  {extension : Extension}

/-- The rejections that blame the submitted rule are those of the consulted extension. -/
theorem Consults.result_eq_error_iff (consults : mutator.Consults request name spec extension)
    {rejection : Rejection} :
    (mutator.mutate request).result = .error rejection ∧ rejection.code = 400 ↔
      extension.rule? = .error rejection := by
  cases asked : extension.rule? with
  | error other =>
      simp only [consults.result_mutate, asked, except_bind_error, Except.error.injEq]
      constructor
      · intro ⟨same, _⟩
        exact same
      · intro same
        exact ⟨same, same ▸ Extension.code_of_rule?_eq_error asked⟩
  | ok rule? =>
      simp only [reduceCtorEq, iff_false, not_and]
      intro rejected blamed
      -- Past the rule, everything that is left to fail does so elsewhere.
      cases rule? with
      | none =>
          rw [consults.result_mutate, asked] at rejected
          cases rejected
      | some rule =>
          have asks := (extension.rule?_eq_some_iff rule).mp asked
          have inScope : mutator.InScope request name spec rule :=
            ⟨consults.toPresents, consults.belongs, extension, consults.yields, asks⟩
          cases blamed.symm.trans (inScope.failsElsewhere rejection rejected)

end Mutator

/-- The validator and the mutator agree about an extension that is not being deleted.
Such an extension can be submitted as an object, and however it is, the following holds
for every mutator that consults it, whatever else that finds.  If the validator admits
the extension, no rejection blames the rule.  If one does, the validator refuses the
extension.  What the validator refuses is always the fault of the rule: either this lists
too many CIDRs, or the mutator rejects with the same message. -/
theorem validate_agrees_with_mutate {members : List (String × Json)} {extension : Extension}
    (canonical : (Json.object members).Canonical)
    (decoded : Extension.shape.decoder.ofJson (.object members) = .ok extension)
    (remains : extension.metadata.deletionTimestamp = none) (validator : Validator)
    {mutator : Mutator} {request : Request} {name : String} {spec : EnvoyFilterSpec}
    (consults : mutator.Consults request name spec extension) :
    (∃ object, SubmittedObject.decoder.ofJson (.object members) = .ok object) ∧
    ∀ submission : Request, submission.Submits (.object members) →
      (validator.validate submission = .ok () → ∀ rejection,
        (mutator.mutate request).result = .error rejection → rejection.code ≠ 400) ∧
      (∀ rejection, (mutator.mutate request).result = .error rejection →
        rejection.code = 400 →
        ∃ refusal, validator.validate submission = .error refusal ∧ refusal.code = 400) ∧
      ∀ refusal, validator.validate submission = .error refusal →
        refusal.code = 400 ∧
          (extension.spec.Exceeds validator.cidrLimit ∨
            ∃ rejection, (mutator.mutate request).result = .error rejection ∧
              rejection.code = 400 ∧ rejection.message = refusal.message) := by
  have ⟨_, submitted, _⟩ := Extension.exists_submitted canonical decoded
  refine ⟨⟨_, submitted⟩, fun submission submits => ?_⟩
  rw [Validator.validate_eq_checkSpec canonical decoded submits]
  have blamed : ∀ rejection, (mutator.mutate request).result = .error rejection →
      rejection.code = 400 → ∃ refusal, validator.checkSpec extension.spec = .error refusal := by
    intro rejection rejected code
    have refused := consults.result_eq_error_iff.mp ⟨rejected, code⟩
    exact validator.exists_checkSpec_eq_error remains refused
  refine ⟨?_, ?_, ?_⟩
  · intro admitted rejection rejected code
    have ⟨_, refused⟩ := blamed rejection rejected code
    cases admitted.symm.trans refused
  · intro rejection rejected code
    have ⟨refusal, refused⟩ := blamed rejection rejected code
    exact ⟨refusal, refused, (Validator.checkSpec_eq_error remains refused).1⟩
  · intro refusal refused
    have ⟨code, reason⟩ := Validator.checkSpec_eq_error remains refused
    refine ⟨code, reason.imp id ?_⟩
    intro asked
    have ⟨rejected, _⟩ := consults.result_eq_error_iff.mpr asked
    exact ⟨refusal, rejected, code, rfl⟩

namespace Demo

/-- A provider configuration with a rule whose only CIDR is none. -/
def misspelt : Json :=
  .object [("rule", .object [
    ("action", .string "DENY"), ("cidrs", .array [.string "10.0.0.0/33"]),
    ("type", .string "source_ip")])]

/-- An extension with that configuration, as it is submitted. -/
def submittedExtension : Json :=
  .object [
    ("metadata", .object [("name", .string "acl")]),
    ("spec", .object [("providerConfig", misspelt), ("type", .string "acl")])]

/-- The same extension as a record. -/
def misspeltExtension : Extension where
  metadata := { name := some "acl" }
  spec := ⟨"acl", some misspelt⟩

def submission : Request :=
  .blank .create (SubmittedObject.decoder.ofJson submittedExtension).toOption

/-- A mutator that finds the extension, and nothing else in time. -/
def misledMutator : Mutator where
  lookup := {
    extension := fun _ _ => .now (.ok (some misspeltExtension))
    cluster := fun _ => .never
    infrastructure := fun _ _ => .never }
  registry := .standard
  alwaysAllowed := []
  timeout := ⟨0⟩

theorem consults :
    misledMutator.Consults request "shoot--local--demo" spec misspeltExtension where
  remains := by decide
  holds := ⟨_, rfl, .named rfl, _, rfl, rfl⟩
  belongs := by decide
  yields := yields_now _

theorem not_exceeds : ¬ misspeltExtension.spec.Exceeds 50 := by
  intro ⟨_, draft, configured, decoded, above⟩
  cases configured
  have read : ProviderConfig.decode misspelt =
      .ok ⟨some ⟨"DENY", "source_ip", ["10.0.0.0/33"]⟩⟩ := rfl
  cases read.symm.trans decoded
  exact absurd above (by decide)

end Demo

/-- A misspelt rule is refused and rejected with the same message. -/
theorem validate_agrees_with_mutate_demo :
    ∃ refusal rejection, (Validator.mk 50).validate Demo.submission = .error refusal ∧
      (Demo.misledMutator.mutate Demo.request).result = .error rejection ∧
      rejection.code = 400 ∧ rejection.message = refusal.message := by
  have read : Demo.submittedExtension.toDocument.toJson = .ok Demo.submittedExtension := rfl
  have canonical := Document.canonical_of_toJson read
  have decoded : Extension.shape.decoder.ofJson Demo.submittedExtension =
      .ok Demo.misspeltExtension := rfl
  have submits : Demo.submission.Submits Demo.submittedExtension := ⟨by decide, _, rfl, rfl⟩
  have refused : (Validator.mk 50).validate Demo.submission =
      .error (.invalidRule (.invalidCidr "10.0.0.0/33")) := rfl
  have ⟨_, agrees⟩ :=
    validate_agrees_with_mutate canonical decoded rfl ⟨50⟩ Demo.consults
  have ⟨_, reason⟩ := (agrees Demo.submission submits).2.2 _ refused
  have ⟨rejection, rejected⟩ := reason.resolve_left Demo.not_exceeds
  exact ⟨_, rejection, refused, rejected⟩

end Admission

end GatewayAcl
