/-!
# Metrics

Counts the requests that were decided about, by the kind of object as the request
spells it and by the verdict.
-/

namespace GatewayAcl.Admission

/-- How a request was decided. -/
inductive Verdict where
  | allowed
  | patched
  | denied
  deriving DecidableEq, Repr

def Verdict.name : Verdict → String
  | .allowed => "allowed"
  | .patched => "patched"
  | .denied => "denied"

/-- A decided request, as far as it is counted. -/
structure Observation where
  kind : String
  verdict : Verdict
  deriving DecidableEq, Repr

/-- How often each observation was made, in the order of their first times. -/
structure Metrics where
  /-- The numbers are unbounded.  A counter in operation has 64 bits, and no run gets to
  the end of those. -/
  counters : List (Observation × Nat)
  deriving DecidableEq, Repr

namespace Metrics

def empty : Metrics := ⟨[]⟩

/-- How often an observation was made. -/
def count (metrics : Metrics) (observation : Observation) : Nat :=
  (metrics.counters.lookup observation).getD 0

def increment (observation : Observation) : List (Observation × Nat) → List (Observation × Nat)
  | [] => [(observation, 1)]
  | (other, number) :: rest =>
      if observation = other then (other, number + 1) :: rest
      else (other, number) :: increment observation rest

def observe (metrics : Metrics) (observation : Observation) : Metrics :=
  ⟨increment observation metrics.counters⟩

def line (counter : Observation × Nat) : String :=
  "admission_requests_total\x7bkind=\"" ++ counter.1.kind ++ "\",result=\"" ++
    counter.1.verdict.name ++ "\"\x7d " ++ toString counter.2

/-- The lines that are there whatever was counted. -/
def fixedLines : List String := [
  "# EOF",
  "# HELP admission_requests Total number of admission requests handled, by resource kind and result.",
  "# TYPE admission_requests counter"]

/-- The lines of the metrics in text, in ascending order. -/
def exposition (metrics : Metrics) : List String :=
  (fixedLines ++ metrics.counters.map line).mergeSort fun left right => decide (left ≤ right)

theorem lookup_increment_self (observation : Observation) (counters : List (Observation × Nat)) :
    (increment observation counters).lookup observation =
      some ((counters.lookup observation).getD 0 + 1) := by
  induction counters with
  | nil => simp [increment]
  | cons counter rest ih =>
      obtain ⟨other, number⟩ := counter
      by_cases same : observation = other
      · subst same; simp [increment]
      · have different : (observation == other) = false := beq_false_of_ne same
        simp [increment, same, List.lookup_cons, different, ih]

/-- Incrementing one counter leaves the others alone. -/
theorem lookup_increment_of_ne {observation other : Observation} (distinct : other ≠ observation)
    (counters : List (Observation × Nat)) :
    (increment observation counters).lookup other = counters.lookup other := by
  induction counters with
  | nil => simp [increment, distinct]
  | cons counter rest ih =>
      obtain ⟨next, number⟩ := counter
      by_cases same : observation = next
      · have different : (other == next) = false := beq_false_of_ne (same ▸ distinct)
        simp [increment, same, List.lookup_cons, different]
      · simp only [increment, same, if_false, List.lookup_cons, ih]

/-- Counting an observation adds one to its count and to no other. -/
theorem count_observe (metrics : Metrics) (observation other : Observation) :
    (metrics.observe observation).count other =
      metrics.count other + if other = observation then 1 else 0 := by
  by_cases same : other = observation
  · subst same; simp [count, observe, lookup_increment_self]
  · simp [count, observe, lookup_increment_of_ne same, same]

end Metrics

end GatewayAcl.Admission
