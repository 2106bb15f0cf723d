import GatewayAcl.Admission.Rejection

/-!
# Inquiries

An inquiry asks for objects one after the other and ends with a value or with a
rejection. It keeps a record of what it has asked for.
-/

namespace GatewayAcl.Admission

/-- What was asked for, and what came of it. -/
structure Inquiry (α : Type) where
  queries : List Query
  result : Except Rejection α

namespace Inquiry

variable {α β : Type}

instance : Monad Inquiry where
  pure value := ⟨[], .ok value⟩
  bind inquiry next :=
    match inquiry.result with
    | .error rejection => ⟨inquiry.queries, .error rejection⟩
    | .ok value => ⟨inquiry.queries ++ (next value).queries, (next value).result⟩

/-- A result that needs no questions. -/
def ofResult (result : Except Rejection α) : Inquiry α := ⟨[], result⟩

/-- Asks one question, whose outcome has to be there within a bound. -/
def ask (bound : Duration) (query : Query) (outcome : Outcome α) : Inquiry α :=
  ⟨[query], (outcome.within bound).mapError .lookup⟩

@[simp] theorem result_pure (value : α) : (pure value : Inquiry α).result = .ok value := rfl

@[simp] theorem result_ofResult (result : Except Rejection α) : (ofResult result).result = result :=
  rfl

@[simp] theorem result_ask (bound : Duration) (query : Query) (outcome : Outcome α) :
    (ask bound query outcome).result = (outcome.within bound).mapError .lookup :=
  rfl

/-- The result of an inquiry that goes on is the result of going on. -/
@[simp] theorem result_bind (inquiry : Inquiry α) (next : α → Inquiry β) :
    (inquiry >>= next).result = inquiry.result >>= fun value => (next value).result := by
  obtain ⟨queries, result⟩ := inquiry
  cases result <;> rfl

end Inquiry

end GatewayAcl.Admission
