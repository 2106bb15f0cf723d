import GatewayAcl.Proofs.Admission.Inquiries

/-!
# Failing closed

An object is admitted as it is only for one of the reasons listed here: it is
being deleted, it belongs to no shoot, or a lookup that has completed says that
the shoot asks for no rule.  Everything that goes wrong is a rejection.
-/

namespace GatewayAcl.Admission.Mutator

open Kube Net

variable (mutator : Mutator)

/-- Once a rule is asked for, there is a patch or a rejection. -/
theorem result_compile_ne_none (namespaceName : String) (spec : EnvoyFilterSpec)
    (rule : Rule) :
    (do
      let exempt ← mutator.exemptNetworks namespaceName
      let patch ← Inquiry.ofResult (splice spec namespaceName ⟨rule, exempt⟩)
      pure (some patch) : Inquiry (Option Patch)).result ≠ .ok none := by
  simp only [Inquiry.result_bind, Inquiry.result_ofResult, Inquiry.result_pure]
  intro admitted
  obtain ⟨exempt, _, spliced⟩ := except_bind_eq_ok_iff.mp admitted
  obtain ⟨patch, _, same⟩ := except_bind_eq_ok_iff.mp spliced
  cases same

/-- The object of a shoot is admitted as it is exactly if the shoot's extension is
known and asks for nothing. -/
theorem result_guardShoot_eq_none_iff (namespaceName : String) (spec : EnvoyFilterSpec) :
    (mutator.guardShoot namespaceName spec).result = .ok none ↔
      ∃ found, (mutator.lookup.extension namespaceName "acl").Yields
          mutator.timeout found ∧
        (found = none ∨ ∃ extension, found = some extension ∧ extension.AsksForNothing) := by
  rw [guardShoot, Inquiry.result_bind, except_bind_eq_ok_iff]
  simp only [findExtension, result_ask_eq_ok_iff]
  constructor
  · rintro ⟨found, yields, admitted⟩
    refine ⟨found, yields, ?_⟩
    cases found with
    | none => exact .inl rfl
    | some extension =>
        simp only [Inquiry.result_bind, Inquiry.result_ofResult] at admitted
        obtain ⟨rule?, asked, admitted⟩ := except_bind_eq_ok_iff.mp admitted
        cases rule? with
        | none => exact .inr ⟨extension, rfl, extension.rule?_eq_none_iff.mp asked⟩
        | some rule =>
            exact absurd admitted (mutator.result_compile_ne_none namespaceName spec rule)
  · rintro ⟨found, yields, rfl | ⟨extension, rfl, nothing⟩⟩
    · exact ⟨none, yields, rfl⟩
    · refine ⟨some extension, yields, ?_⟩
      simp only [Inquiry.result_bind, Inquiry.result_ofResult,
        extension.rule?_eq_none_iff.mpr nothing, except_bind_ok, Inquiry.result_pure]

/-- A request is admitted unchanged exactly if it is a deletion, or its spec decodes
and either its object belongs to no shoot or the lookup of the shoot's extension
completes in time and without error and yields none or one that asks for
nothing. -/
theorem result_mutate_eq_none_iff (request : Request) :
    (mutator.mutate request).result = .ok none ↔
      request.operation = .delete ∨
      ∃ object name json spec, request.object = some object ∧ object.metadata.IsCalled name ∧
        object.spec = some json ∧ EnvoyFilterSpec.shape.decoder.ofJson json = .ok spec ∧
        (¬ "shoot--".toList <+: name.toList ∨
          ∃ found, (mutator.lookup.extension name "acl").Yields mutator.timeout found ∧
            (found = none ∨
              ∃ extension, found = some extension ∧ extension.AsksForNothing)) := by
  unfold mutate
  by_cases deletion : request.operation = .delete
  · simp [deletion]
  · rw [if_neg deletion, Inquiry.result_bind, except_bind_eq_ok_iff]
    simp only [Inquiry.result_ofResult, deletion, false_or]
    constructor
    · rintro ⟨⟨object, spec⟩, read, admitted⟩
      obtain ⟨holds, json, hasSpec, decoded⟩ := Request.readSpec_eq_ok_iff.mp read
      refine ⟨object, _, json, spec, holds, ObjectMeta.isCalled_iff.mpr rfl, hasSpec, decoded, ?_⟩
      by_cases belongs : belongsToShoot object.metadata.anyName = true
      · simp only [belongs, if_true] at admitted
        exact .inr ((mutator.result_guardShoot_eq_none_iff _ spec).mp admitted)
      · exact .inl (mt (belongsToShoot_iff _).mpr belongs)
    · rintro ⟨object, name, json, spec, holds, isCalled, hasSpec, decoded, reason⟩
      refine ⟨(object, spec),
        Request.readSpec_eq_ok_iff.mpr ⟨holds, json, hasSpec, decoded⟩, ?_⟩
      cases ObjectMeta.isCalled_iff.mp isCalled
      by_cases belongs : belongsToShoot object.metadata.anyName = true
      · simp only [belongs, if_true]
        apply (mutator.result_guardShoot_eq_none_iff _ spec).mpr
        exact reason.resolve_left (not_not_intro ((belongsToShoot_iff _).mp belongs))
      · simp [belongs]

end GatewayAcl.Admission.Mutator
