import GatewayAcl.Provider.Registry

/-!
# Registrations

What a registry says after providers have been registered one after the other.  The last
registration under a name prevails, whatever was registered under other names in between, and
without any the provider that was there from the beginning does.  So it is only the order of
the registrations under one name that matters.
-/

namespace GatewayAcl

open Net

/-- A call that registers a provider. -/
structure Registration where
  name : String
  extraction : Extraction

namespace Registry

/-- What a registry begins with: nothing, or what is supported out of the box. -/
inductive Origin where
  | empty
  | standard
  deriving DecidableEq, Repr

def Origin.registry : Origin → Registry
  | .empty => .empty
  | .standard => .standard

/-- The registry after registrations, made one after the other. -/
def registerAll (registry : Registry) (registrations : List Registration) : Registry :=
  registrations.foldl (fun registry call => registry.register call.name call.extraction) registry

/-- The registry after registrations from the beginning. -/
def Origin.after (origin : Origin) (registrations : List Registration) : Registry :=
  origin.registry.registerAll registrations

/-- Nothing is registered under a name. -/
def NoneUnder (name : String) (registrations : List Registration) : Prop :=
  ∀ call ∈ registrations, call.name ≠ name

/-- The last one of the registrations under a name has an extraction. -/
def LastUnder (name : String) (extraction : Extraction) (registrations : List Registration) :
    Prop :=
  ∃ before after, registrations = before ++ ⟨name, extraction⟩ :: after ∧ NoneUnder name after

/-- The extraction that counts for a name in the end: the one that was registered last, or the
one that was there from the beginning and has never been replaced. -/
inductive Prevails (origin : Origin) (registrations : List Registration) (name : String) :
    Extraction → Prop where
  | registered {extraction : Extraction} :
      LastUnder name extraction registrations → Prevails origin registrations name extraction
  | builtIn : origin = .standard → name = "openstack" → NoneUnder name registrations →
      Prevails origin registrations name OpenStack.allowedNetworks

section

variable {registry other : Registry} {origin : Origin} {registrations : List Registration}
  {name : String} {extraction : Extraction}

@[ext] theorem ext (same : ∀ name, registry.extraction? name = other.extraction? name) :
    registry = other := by
  cases registry
  cases other
  exact congrArg mk (funext same)

/-! ## What is asked of a registry -/

theorem isRegistered_iff : registry.isRegistered name = true ↔
    ∃ extraction, registry.extraction? name = some extraction :=
  Option.isSome_iff_exists

theorem allowedNetworks_of_unregistered (unknown : registry.isRegistered name = false)
    (status : Option Json) : registry.allowedNetworks name status = .ok [] := by
  have noExtraction : registry.extraction? name = none := Option.not_isSome_iff_eq_none.mp
    (Bool.not_eq_true _ ▸ unknown)
  simp only [allowedNetworks, noExtraction]

theorem allowedNetworks_none (found : registry.extraction? name = some extraction) :
    registry.allowedNetworks name none = .error (.missingStatus name) := by
  simp only [allowedNetworks, found]

theorem allowedNetworks_some (found : registry.extraction? name = some extraction)
    (status : Json) : registry.allowedNetworks name (some status) = extraction status := by
  simp only [allowedNetworks, found]

/-! ## One registration -/

@[simp] theorem extraction?_register (registry : Registry) (name : String)
    (extraction : Extraction) (queried : String) :
    (registry.register name extraction).extraction? queried =
      if queried = name then some extraction else registry.extraction? queried := rfl

/-- Registrations under two names may change places. -/
theorem register_comm {second : String} (distinct : name ≠ second) (registry : Registry)
    (extraction newer : Extraction) :
    (registry.register name extraction).register second newer =
      (registry.register second newer).register name extraction := by
  ext queried : 1
  simp only [extraction?_register]
  by_cases isFirst : queried = name
  · subst isFirst
    rw [if_neg distinct, if_pos rfl, if_pos rfl]
  · rw [if_neg isFirst, if_neg isFirst]

/-! ## Several registrations -/

@[simp] theorem registerAll_nil (registry : Registry) : registry.registerAll [] = registry := rfl

@[simp] theorem registerAll_cons (registry : Registry) (call : Registration)
    (registrations : List Registration) :
    registry.registerAll (call :: registrations) =
      (registry.register call.name call.extraction).registerAll registrations := rfl

theorem registerAll_append (registry : Registry) (before after : List Registration) :
    registry.registerAll (before ++ after) = (registry.registerAll before).registerAll after :=
  List.foldl_append

/-- Only the registrations under a name count for the name. -/
theorem extraction?_registerAll_filter
    (same : registry.extraction? name = other.extraction? name) :
    (registry.registerAll registrations).extraction? name =
      (other.registerAll (registrations.filter (·.name = name))).extraction? name := by
  induction registrations generalizing registry other with
  | nil => exact same
  | cons call registrations ih =>
      by_cases here : call.name = name
      · rw [List.filter_cons_of_pos (by simpa using here)]
        exact ih (by simp [here])
      · rw [List.filter_cons_of_neg (by simpa using here)]
        exact ih (by simpa [Ne.symm here] using same)

theorem extraction?_registerAll_of_noneUnder (unused : NoneUnder name registrations)
    (registry : Registry) :
    (registry.registerAll registrations).extraction? name = registry.extraction? name := by
  have nothingLeft : registrations.filter (·.name = name) = [] := by
    simpa [NoneUnder] using unused
  rw [extraction?_registerAll_filter rfl, nothingLeft, registerAll_nil]

theorem extraction?_registerAll_of_lastUnder (last : LastUnder name extraction registrations)
    (registry : Registry) :
    (registry.registerAll registrations).extraction? name = some extraction := by
  have ⟨before, after, split, unused⟩ := last
  rw [split, registerAll_append, registerAll_cons, extraction?_registerAll_of_noneUnder unused,
    extraction?_register, if_pos rfl]

theorem noneUnder_or_lastUnder (name : String) (registrations : List Registration) :
    NoneUnder name registrations ∨ ∃ extraction, LastUnder name extraction registrations := by
  induction registrations with
  | nil => exact .inl (List.forall_mem_nil _)
  | cons call registrations ih =>
      rcases ih with unused | ⟨extraction, before, after, split, unused⟩
      · by_cases here : call.name = name
        · exact .inr ⟨call.extraction, [], registrations, here ▸ rfl, unused⟩
        · exact .inl (List.forall_mem_cons.mpr ⟨here, unused⟩)
      · exact .inr ⟨extraction, call :: before, after, congrArg (call :: ·) split, unused⟩

theorem not_noneUnder_iff :
    ¬ NoneUnder name registrations ↔ name ∈ registrations.map Registration.name := by
  simp [NoneUnder]

/-- Two runs with the same registrations under each name end in the same registry. -/
theorem registerAll_eq_of_filter {others : List Registration}
    (alike : ∀ name, registrations.filter (·.name = name) = others.filter (·.name = name))
    (registry : Registry) : registry.registerAll registrations = registry.registerAll others := by
  ext name : 1
  rw [extraction?_registerAll_filter rfl, alike name, ← extraction?_registerAll_filter rfl]

/-- A registration erases those that were made under its name before. -/
theorem register_registerAll (registry : Registry) (registrations : List Registration)
    (name : String) (extraction : Extraction) :
    (registry.registerAll registrations).register name extraction =
      (registry.registerAll (registrations.filter (·.name ≠ name))).register name extraction := by
  ext queried : 1
  rw [extraction?_register, extraction?_register]
  split
  · rfl
  · next distinct =>
      have kept : (registrations.filter (·.name ≠ name)).filter (·.name = queried) =
          registrations.filter (·.name = queried) := by
        rw [List.filter_filter]
        refine List.filter_congr fun call _ => ?_
        by_cases isQueried : call.name = queried
        · simp [isQueried, distinct]
        · simp [isQueried]
      rw [extraction?_registerAll_filter rfl, ← kept, ← extraction?_registerAll_filter rfl]

/-! ## From the beginning -/

theorem Origin.extraction?_eq_some_iff :
    origin.registry.extraction? name = some extraction ↔
      origin = .standard ∧ name = "openstack" ∧ extraction = OpenStack.allowedNetworks := by
  cases origin with
  | empty => simp [registry, Registry.empty]
  | standard =>
      have found : Origin.standard.registry.extraction? name =
          if name = "openstack" then some OpenStack.allowedNetworks else none := rfl
      rw [found, Option.ite_none_right_eq_some, Option.some.injEq, eq_comm (a := extraction)]
      exact (and_iff_right rfl).symm

theorem extraction?_after_eq_some_iff :
    (origin.after registrations).extraction? name = some extraction ↔
      Prevails origin registrations name extraction := by
  rw [Origin.after]
  constructor
  · intro found
    rcases noneUnder_or_lastUnder name registrations with unused | ⟨last, isLast⟩
    · rw [extraction?_registerAll_of_noneUnder unused, Origin.extraction?_eq_some_iff] at found
      have ⟨isStandard, isKnown, same⟩ := found
      exact same ▸ .builtIn isStandard isKnown unused
    · rw [extraction?_registerAll_of_lastUnder isLast] at found
      cases found
      exact .registered isLast
  · intro prevails
    cases prevails with
    | registered last => exact extraction?_registerAll_of_lastUnder last _
    | builtIn isStandard isKnown unused =>
        rw [extraction?_registerAll_of_noneUnder unused, Origin.extraction?_eq_some_iff]
        exact ⟨isStandard, isKnown, rfl⟩

theorem isRegistered_after_iff :
    (origin.after registrations).isRegistered name = true ↔
      name ∈ registrations.map Registration.name ∨ origin = .standard ∧ name = "openstack" := by
  rw [isRegistered_iff, Origin.after, ← not_noneUnder_iff]
  rcases noneUnder_or_lastUnder name registrations with unused | ⟨last, isLast⟩
  · simp only [extraction?_registerAll_of_noneUnder unused, Origin.extraction?_eq_some_iff]
    simp [unused]
  · have used : ¬ NoneUnder name registrations := by
      have ⟨before, after, split, _⟩ := isLast
      intro unused
      exact unused ⟨name, last⟩ (split ▸ List.mem_append_right before List.mem_cons_self) rfl
    simp [extraction?_registerAll_of_lastUnder isLast, used]

end

/-- What a registry says after any registrations.  It knows the names that were registered and
those from the beginning.  An unknown provider adds no networks, whatever its status.  A known
one needs a status, and then its networks are what the prevailing extraction finds in it.
Neighbours under different names may change places, and so may any number of registrations
as long as those under one name keep their order.  One under the same name erases all that
were made before it. -/
theorem registerAll_exact (origin : Origin) (registrations : List Registration) :
    (∀ name, (origin.after registrations).isRegistered name = true ↔
      name ∈ registrations.map Registration.name ∨ origin = .standard ∧ name = "openstack") ∧
    (∀ name, (origin.after registrations).isRegistered name = false →
      ∀ status, (origin.after registrations).allowedNetworks name status = .ok []) ∧
    (∀ name, (origin.after registrations).isRegistered name = true →
      (origin.after registrations).allowedNetworks name none = .error (.missingStatus name) ∧
      ∃ extraction, (∀ other, Prevails origin registrations name other ↔ other = extraction) ∧
        ∀ status, (origin.after registrations).allowedNetworks name (some status) =
          extraction status) ∧
    (∀ first second : Registration, first.name ≠ second.name →
      ∀ behind, origin.after (registrations ++ first :: second :: behind) =
        origin.after (registrations ++ second :: first :: behind)) ∧
    (∀ others : List Registration,
      (∀ name, registrations.filter (·.name = name) = others.filter (·.name = name)) →
        origin.after registrations = origin.after others) ∧
    ∀ (call : Registration) (behind : List Registration),
      origin.after (registrations ++ call :: behind) =
        origin.after (registrations.filter (·.name ≠ call.name) ++ call :: behind) := by
  refine ⟨fun _ => isRegistered_after_iff, fun _ => allowedNetworks_of_unregistered,
    fun name known => ?_, fun first second distinct behind => ?_,
    fun others alike => registerAll_eq_of_filter alike _, fun call behind => ?_⟩
  · have ⟨extraction, found⟩ := isRegistered_iff.mp known
    refine ⟨allowedNetworks_none found, extraction, fun other => ?_, allowedNetworks_some found⟩
    rw [← extraction?_after_eq_some_iff, found, Option.some.injEq, eq_comm]
  · simp only [Origin.after, registerAll_append, registerAll_cons]
    rw [register_comm distinct]
  · simp only [Origin.after, registerAll_append, registerAll_cons]
    rw [register_registerAll]

/-- The built-in provider is replaced, and the error of the new one is passed on unchanged. -/
example : (Origin.standard.after [⟨"metal", fun _ => .ok []⟩,
      ⟨"openstack", fun _ => .error (.missingStatus "custom")⟩]).allowedNetworks "openstack"
    (some .null) = .error (.missingStatus "custom") := rfl

end Registry

end GatewayAcl
