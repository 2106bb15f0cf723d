/-!
# Results that may be errors

When a computation that may fail has a value, and which one.  A computation in
several steps has a value if every step has one.
-/

namespace GatewayAcl

variable {ε ε' α β : Type}

@[simp] theorem except_bind_ok (value : α) (next : α → Except ε β) :
    (Except.ok value >>= next) = next value := rfl

@[simp] theorem except_bind_error (error : ε) (next : α → Except ε β) :
    ((Except.error error : Except ε α) >>= next) = .error error := rfl

@[simp] theorem except_mapError_ok (image : ε → ε') (value : α) :
    (Except.ok value).mapError image = .ok value := rfl

@[simp] theorem except_mapError_error (image : ε → ε') (error : ε) :
    (Except.error error : Except ε α).mapError image = .error (image error) := rfl

theorem except_bind_eq_ok_iff {result : Except ε α} {next : α → Except ε β} {value : β} :
    (result >>= next) = .ok value ↔ ∃ step, result = .ok step ∧ next step = .ok value := by
  cases result with
  | error error => simp
  | ok step => simp

theorem except_bind_eq_error_iff {result : Except ε α} {next : α → Except ε β} {error : ε} :
    (result >>= next) = .error error ↔
      result = .error error ∨ ∃ step, result = .ok step ∧ next step = .error error := by
  cases result with
  | error other => simp
  | ok step => simp

theorem except_map_eq_ok_iff {result : Except ε α} {image : α → β} {value : β} :
    result.map image = .ok value ↔ ∃ source, result = .ok source ∧ image source = value := by
  cases result with
  | error error => simp [Except.map]
  | ok source => simp [Except.map]

theorem except_mapError_eq_ok_iff {result : Except ε α} {image : ε → ε'} {value : α} :
    result.mapError image = .ok value ↔ result = .ok value := by
  cases result with
  | error error => simp
  | ok source => simp

theorem except_map_eq_error_iff {result : Except ε α} {image : α → β} {error : ε} :
    result.map image = .error error ↔ result = .error error := by
  cases result with
  | error other => simp [Except.map]
  | ok source => simp [Except.map]

theorem except_mapError_eq_error_iff {result : Except ε α} {image : ε → ε'} {error : ε'} :
    result.mapError image = .error error ↔
      ∃ cause, result = .error cause ∧ image cause = error := by
  cases result with
  | error other => simp
  | ok source => simp

theorem except_failed_iff {result : Except ε α} :
    (∃ error, result = .error error) ↔ ∀ value, result ≠ .ok value := by
  cases result with
  | error error => simp
  | ok value => simp

end GatewayAcl
