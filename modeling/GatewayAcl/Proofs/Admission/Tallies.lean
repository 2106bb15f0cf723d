import GatewayAcl.Proofs.Admission.Identity
import Mathlib.Data.List.Nodup
import Mathlib.Data.List.Perm.Lattice
import Mathlib.Logic.Relation

/-!
# Counted requests

A service and its clones handle requests side by side and share one set of counters.
Requests come in and are answered or given up in any order, and the lookups for each of
them come out in their own way.  At any time the counters tell how many of the answered
requests were decided about, by kind and verdict, and nothing else.  So the order of the
answers does not matter, and only spellings of two kinds are ever counted.
-/

namespace GatewayAcl.Admission

/-! ## Counters -/

namespace Metrics

variable {metrics : Metrics} {observation : Observation} {number : Nat}

theorem mem_increment {counter : Observation × Nat} {counters : List (Observation × Nat)}
    (member : counter ∈ increment observation counters) :
    counter ∈ counters ∨ counter.1 = observation ∧ 0 < counter.2 := by
  induction counters with
  | nil =>
      cases List.mem_singleton.mp member
      exact .inr ⟨rfl, Nat.one_pos⟩
  | cons first rest ih =>
      have ⟨other, count⟩ := first
      rw [increment] at member
      split at member
      · next same =>
          cases List.mem_cons.mp member with
          | inl isFirst => exact .inr ⟨isFirst ▸ same.symm, isFirst ▸ Nat.succ_pos count⟩
          | inr inRest => exact .inl (List.mem_cons_of_mem _ inRest)
      · cases List.mem_cons.mp member with
        | inl isFirst => exact .inl (isFirst ▸ List.mem_cons_self)
        | inr inRest => exact (ih inRest).imp (List.mem_cons_of_mem _) id

/-- A new observation gets a counter of its own. -/
theorem map_fst_increment (observation : Observation) (counters : List (Observation × Nat)) :
    (increment observation counters).map Prod.fst =
      if observation ∈ counters.map Prod.fst then counters.map Prod.fst
      else counters.map Prod.fst ++ [observation] := by
  induction counters with
  | nil => rfl
  | cons first rest ih =>
      have ⟨other, count⟩ := first
      by_cases same : observation = other
      · simp [increment, same]
      · rw [increment, if_neg same, List.map_cons, List.map_cons, ih]
        by_cases counted : observation ∈ rest.map Prod.fst
        · rw [if_pos counted, if_pos (List.mem_cons_of_mem other counted)]
        · rw [if_neg counted, if_neg (mt (List.mem_of_ne_of_mem same) counted), List.cons_append]

/-- Counters that are in use, one for each observation. -/
structure WellFormed (metrics : Metrics) : Prop where
  distinct : (metrics.counters.map Prod.fst).Nodup
  positive : ∀ counter ∈ metrics.counters, 0 < counter.2

theorem wellFormed_empty : empty.WellFormed where
  distinct := List.nodup_nil
  positive counter member := by cases member

theorem WellFormed.observe (wellFormed : metrics.WellFormed) (observation : Observation) :
    (metrics.observe observation).WellFormed where
  distinct := by
    rw [Metrics.observe, map_fst_increment]
    split
    · exact wellFormed.distinct
    · next fresh =>
        refine List.nodup_append.mpr ⟨wellFormed.distinct, List.nodup_singleton _, ?_⟩
        intro counted member added isAdded same
        exact fresh (List.mem_singleton.mp isAdded ▸ same ▸ member)
  positive counter member :=
    (mem_increment member).elim (wellFormed.positive counter) (·.2)

theorem count_of_lookup (found : metrics.counters.lookup observation = some number) :
    metrics.count observation = number := by
  rw [count, found, Option.getD_some]

theorem lookup_of_count (isCount : metrics.count observation = number) (positive : 0 < number) :
    metrics.counters.lookup observation = some number := by
  cases found : metrics.counters.lookup observation with
  | none =>
      rw [count, found] at isCount
      exact absurd isCount (Nat.ne_of_lt positive)
  | some counted => rw [← count_of_lookup found, isCount]

/-- The counters are the observations with their counts, as far as these are not zero. -/
theorem WellFormed.mem_counters_iff (wellFormed : metrics.WellFormed) :
    (observation, number) ∈ metrics.counters ↔ 0 < number ∧ metrics.count observation = number := by
  constructor
  · intro member
    have ⟨before, behind, split⟩ := List.mem_iff_append.mp member
    have distinct := wellFormed.distinct
    rw [split, List.map_append, List.nodup_append] at distinct
    have found : metrics.counters.lookup observation = some number := by
      refine List.lookup_eq_some_iff.mpr ⟨before, behind, split, fun earlier isEarlier => ?_⟩
      have different := distinct.2.2 _ (List.mem_map_of_mem isEarlier) observation
        List.mem_cons_self
      exact bne_iff_ne.mpr (Ne.symm different)
    exact ⟨wellFormed.positive _ member, count_of_lookup found⟩
  · intro ⟨positive, isCount⟩
    have found := lookup_of_count isCount positive
    have ⟨before, behind, split, _⟩ := List.lookup_eq_some_iff.mp found
    exact split ▸ List.mem_append_right before List.mem_cons_self

/-- Metrics with the same counts have the same counters, perhaps in another order. -/
theorem WellFormed.perm_counters {other : Metrics} (wellFormed : metrics.WellFormed)
    (otherWellFormed : other.WellFormed)
    (same : ∀ observation, metrics.count observation = other.count observation) :
    metrics.counters.Perm other.counters := by
  rw [List.perm_ext_iff_of_nodup wellFormed.distinct.of_map otherWellFormed.distinct.of_map]
  intro ⟨observation, number⟩
  rw [wellFormed.mem_counters_iff, otherWellFormed.mem_counters_iff, same]

theorem exposition_eq_of_perm {other : Metrics} (perm : metrics.counters.Perm other.counters) :
    metrics.exposition = other.exposition := by
  have sorted := @List.pairwise_mergeSort String (fun left right => decide (left ≤ right))
    (by simpa using fun _ _ _ => String.le_trans) (by simpa using String.le_total)
  have lines := (perm.map line).append_left fixedLines
  refine List.Perm.eq_of_pairwise ?_ (sorted _) (sorted _)
    ((List.mergeSort_perm _ _).trans (lines.trans (List.mergeSort_perm _ _).symm))
  intro left right _ _ below above
  exact String.le_antisymm (of_decide_eq_true below) (of_decide_eq_true above)

end Metrics

/-! ## Decisions -/

/-- The verdict that a response shows. -/
def Response.verdict (response : Response) : Verdict :=
  if response.allowed then
    if response.patch.isSome then .patched else .allowed
  else .denied

/-- An HTTP request and what it was answered with. -/
structure Exchange where
  http : Http.Request
  answer : Except ServiceError HttpAnswer

/-- An HTTP request gets to the mutator or the validator. -/
def Dispatched (http : Http.Request) : Prop :=
  ∃ type request, Asks http type request ∧ request.IsSupported

/-- An exchange shows a decision: a request that gets to the mutator or the validator, with
the kind as it spells it, and the verdict of its response. -/
def Exchange.Decides (exchange : Exchange) (observation : Observation) : Prop :=
  ∃ type request response, Asks exchange.http type request ∧ request.IsSupported ∧
    exchange.answer = .ok (.reviewed response) ∧
    observation = ⟨request.kind.kind, response.verdict⟩

open Classical in
/-- How many of the exchanges show a decision. -/
noncomputable def tally (exchanges : List Exchange) (observation : Observation) : Nat :=
  exchanges.countP fun exchange => exchange.Decides observation

/-- An exchange is counted: one that shows a decision by one more in the counter of the
decision, and every other exchange not at all. -/
structure Exchange.Counts (exchange : Exchange) (metrics next : Metrics) : Prop where
  decided : Dispatched exchange.http → ∃ observation, exchange.Decides observation ∧
    ∀ other, next.count other = metrics.count other + if other = observation then 1 else 0
  silent : ¬ Dispatched exchange.http → next = metrics

/-- A decision that there can be: about a filter object or an extension, in whatever case
the kind is spelled, and extensions are not patched. -/
def Observation.IsKnown (observation : Observation) : Prop :=
  observation.kind.toLower = "envoyfilter" ∨
    observation.kind.toLower = "extension" ∧ observation.verdict ≠ .patched

variable {http : Http.Request} {type : ObjectType} {request : Request}
  {observation : Observation} {exchange : Exchange} {exchanges : List Exchange}

theorem Asks.unique {otherType : ObjectType} {other : Request} (asks : Asks http type request)
    (otherAsks : Asks http otherType other) : request = other := by
  have ⟨bytes, isBody, read⟩ := asks.carries
  have ⟨otherBytes, isOtherBody, otherRead⟩ := otherAsks.carries
  cases isBody.symm.trans isOtherBody
  cases read.symm.trans otherRead
  rfl

theorem Exchange.Decides.unique {other : Observation} (decides : exchange.Decides observation)
    (otherDecides : exchange.Decides other) : observation = other := by
  have ⟨type, request, response, asks, _, answered, isObservation⟩ := decides
  have ⟨otherType, otherRequest, otherResponse, otherAsks, _, otherAnswered, isOther⟩ :=
    otherDecides
  cases answered.symm.trans otherAnswered
  rw [isObservation, isOther, asks.unique otherAsks]

theorem tally_cons [Decidable (exchange.Decides observation)] :
    tally (exchange :: exchanges) observation =
      tally exchanges observation + if exchange.Decides observation then 1 else 0 := by
  rw [tally, tally, List.countP_cons]
  simp only [decide_eq_true_eq]

theorem tally_perm {others : List Exchange} (perm : exchanges.Perm others) :
    tally exchanges observation = tally others observation := by
  rw [tally, tally]
  exact perm.countP_eq _

namespace Service

variable {α : Type} {metrics : Metrics} {handling : Handling α} {service : Service}

theorem count_record :
    (record metrics handling).count observation =
      metrics.count observation + if handling.observation = some observation then 1 else 0 := by
  rw [record]
  split
  · next silent => rw [silent]; rfl
  · next counted observed =>
      rw [Metrics.count_observe, observed]
      simp only [Option.some.injEq, eq_comm]

theorem wellFormed_record (wellFormed : metrics.WellFormed) (handling : Handling α) :
    (record metrics handling).WellFormed := by
  rw [record]
  split
  · exact wellFormed
  · exact wellFormed.observe _

theorem mem_record {counter : Observation × Nat}
    (member : counter ∈ (record metrics handling).counters) :
    counter ∈ metrics.counters ∨ handling.observation = some counter.1 := by
  rw [record] at member
  split at member
  · exact .inl member
  · next counted observed =>
      cases Metrics.mem_increment member with
      | inl earlier => exact .inl earlier
      | inr added => exact .inr (added.1 ▸ observed)

theorem observation_handleFilter (service : Service) (type : ObjectType) (request : Request) :
    (service.handleFilter type request).observation =
      some ⟨request.kind.kind, (service.handleFilter type request).answer.verdict⟩ := by
  rw [handleFilter]
  cases (service.mutator.mutate request).result with
  | error rejection => rfl
  | ok patch? => cases patch? <;> rfl

theorem observation_handleExtension (service : Service) (type : ObjectType) (request : Request) :
    (service.handleExtension type request).observation =
      some ⟨request.kind.kind, (service.handleExtension type request).answer.verdict⟩ := by
  rw [handleExtension]
  cases service.validator.validate request <;> rfl

theorem verdict_handleExtension_ne_patched (service : Service) (type : ObjectType)
    (request : Request) :
    (service.handleExtension type request).answer.verdict ≠ .patched := by
  rw [handleExtension]
  cases service.validator.validate request with
  | error rejection => exact Verdict.noConfusion
  | ok valid => exact Verdict.noConfusion

theorem observation_handleRequest (service : Service) (type : ObjectType)
    (supported : request.IsSupported) :
    (service.handleRequest type request).observation =
      some ⟨request.kind.kind, (service.handleRequest type request).answer.verdict⟩ := by
  cases supported with
  | inl isFilter =>
      rw [service.handleRequest_of_filter type isFilter]
      exact service.observation_handleFilter type request
  | inr isExtension =>
      rw [service.handleRequest_of_extension type isExtension]
      exact service.observation_handleExtension type request

theorem isKnown_handleRequest (service : Service) (type : ObjectType)
    (supported : request.IsSupported) :
    Observation.IsKnown
      ⟨request.kind.kind, (service.handleRequest type request).answer.verdict⟩ := by
  cases supported with
  | inl isFilter => exact .inl isFilter.2
  | inr isExtension =>
      rw [service.handleRequest_of_extension type isExtension]
      exact .inr ⟨isExtension.2, service.verdict_handleExtension_ne_patched type request⟩

theorem observation_handleBody_of_unsupported (service : Service) {body : List UInt8}
    (unsupported : ∀ type request, Review.decoder.ofBytes body = .ok ⟨type, some request⟩ →
      ¬ request.IsSupported) :
    (service.handleBody body).observation = none := by
  rw [handleBody]
  split
  · rfl
  · rfl
  · next type request read =>
      rw [service.handleRequest_of_unsupported type (unsupported type request read)]

/-- What gets to neither the mutator nor the validator is not counted. -/
theorem observation_of_not_dispatched (service : Service) (apart : ¬ Dispatched http) :
    (service.handle http).observation = none := by
  rw [handle]
  split
  · rfl
  · next routed =>
      simp only [Bool.or_eq_true, bne_iff_ne, not_or, not_not] at routed
      cases isBody : http.body with
      | none => rfl
      | some body =>
          refine service.observation_handleBody_of_unsupported fun type request read => ?_
          intro supported
          exact apart ⟨type, request, ⟨routed.1, routed.2, body, isBody, read⟩, supported⟩

/-- What gets to the mutator or the validator is counted as the decision that the answer
shows. -/
theorem decides_of_dispatched (service : Service) (dispatched : Dispatched http) :
    ∃ observation, (service.handle http).observation = some observation ∧
      Exchange.Decides ⟨http, (service.handle http).answer⟩ observation ∧
      observation.IsKnown := by
  have ⟨type, request, asks, supported⟩ := dispatched
  have counted := service.observation_handleRequest type supported
  have known := service.isKnown_handleRequest type supported
  rw [service.handle_of_asks asks]
  exact ⟨_, counted, ⟨type, request, _, asks, supported, rfl, rfl⟩, known⟩

theorem observation_eq_some_iff :
    (service.handle http).observation = some observation ↔
      Exchange.Decides ⟨http, (service.handle http).answer⟩ observation := by
  constructor
  · intro observed
    by_cases dispatched : Dispatched http
    · have ⟨counted, isCounted, decides, _⟩ := service.decides_of_dispatched dispatched
      cases isCounted.symm.trans observed
      exact decides
    · cases (service.observation_of_not_dispatched dispatched).symm.trans observed
  · intro decides
    have ⟨type, request, _, asks, supported, _⟩ := decides
    have ⟨counted, isCounted, counts, _⟩ :=
      service.decides_of_dispatched ⟨type, request, asks, supported⟩
    exact isCounted.trans (congrArg some (counts.unique decides))

/-- One more request adds to one counter at most. -/
theorem counts_record (service : Service) (metrics : Metrics) (http : Http.Request) :
    Exchange.Counts ⟨http, (service.handle http).answer⟩ metrics
      (record metrics (service.handle http)) where
  decided dispatched := by
    have ⟨observation, observed, decides, _⟩ := service.decides_of_dispatched dispatched
    refine ⟨observation, decides, fun other => ?_⟩
    rw [count_record, observed]
    simp only [Option.some.injEq, eq_comm]
  silent apart := by rw [record, service.observation_of_not_dispatched apart]

theorem isKnown_of_observation (observed : (service.handle http).observation = some observation) :
    observation.IsKnown := by
  by_cases dispatched : Dispatched http
  · have ⟨counted, isCounted, _, known⟩ := service.decides_of_dispatched dispatched
    cases isCounted.symm.trans observed
    exact known
  · cases (service.observation_of_not_dispatched dispatched).symm.trans observed

end Service

/-! ## Traffic -/

/-- A service at work: the requests that wait for an answer, the exchanges that are over,
and the counters. -/
structure Traffic where
  pending : List Http.Request
  exchanges : List Exchange
  metrics : Metrics

/-- The service with other outcomes of its lookups. -/
def Service.withLookup (service : Service) (lookup : Lookup) : Service :=
  { service with mutator := { service.mutator with lookup := lookup } }

namespace Traffic

variable {service : Service} {traffic next : Traffic}

/-- Nothing has been asked yet. -/
def start : Traffic := ⟨[], [], .empty⟩

/-- The traffic after the handling of a request, when others are still pending. -/
def finish (traffic : Traffic) (pending : List Http.Request) (http : Http.Request)
    (handling : Handling (Except ServiceError HttpAnswer)) : Traffic where
  pending := pending
  exchanges := ⟨http, handling.answer⟩ :: traffic.exchanges
  metrics := Service.record traffic.metrics handling

/-- What happens next: a request comes in, or one of those that are pending is answered or
given up.  The lookups for it come out in any way. -/
inductive Step (service : Service) (traffic : Traffic) : Traffic → Prop where
  | arrive (http : Http.Request) :
      Step service traffic { traffic with pending := http :: traffic.pending }
  | answer (http : Http.Request) (pending : List Http.Request) (lookup : Lookup)
      (isPending : traffic.pending.Perm (http :: pending)) :
      Step service traffic
        (traffic.finish pending http ((service.withLookup lookup).handle http))
  | abandon (http : Http.Request) (pending : List Http.Request)
      (isPending : traffic.pending.Perm (http :: pending)) :
      Step service traffic { traffic with pending := pending }

/-- A service gets to the traffic in some number of steps. -/
def Reached (service : Service) (traffic : Traffic) : Prop :=
  Relation.ReflTransGen (Step service) start traffic

/-- The counters agree with the exchanges. -/
structure Tallies (traffic : Traffic) : Prop where
  wellFormed : traffic.metrics.WellFormed
  count_eq : ∀ observation,
    traffic.metrics.count observation = tally traffic.exchanges observation
  known : ∀ counter ∈ traffic.metrics.counters, counter.1.IsKnown

theorem tallies_start : start.Tallies where
  wellFormed := Metrics.wellFormed_empty
  count_eq _ := by rw [tally]; rfl
  known counter member := by cases member

theorem Tallies.finish (tallies : traffic.Tallies) (service : Service)
    (pending : List Http.Request) (http : Http.Request) :
    (traffic.finish pending http (service.handle http)).Tallies := by
  refine ⟨?_, fun observation => ?_, fun counter member => ?_⟩
  · exact Service.wellFormed_record tallies.wellFormed _
  · classical
    rw [Traffic.finish, tally_cons, Service.count_record, tallies.count_eq]
    simp only [Service.observation_eq_some_iff]
  · cases Service.mem_record member with
    | inl earlier => exact tallies.known counter earlier
    | inr observed => exact Service.isKnown_of_observation observed

theorem Tallies.step (tallies : traffic.Tallies) (step : Step service traffic next) :
    next.Tallies := by
  cases step with
  | arrive http => exact ⟨tallies.wellFormed, tallies.count_eq, tallies.known⟩
  | answer http pending lookup isPending =>
      exact tallies.finish (service.withLookup lookup) pending http
  | abandon http pending isPending =>
      exact ⟨tallies.wellFormed, tallies.count_eq, tallies.known⟩

theorem Reached.tallies (reached : Reached service traffic) : traffic.Tallies := by
  induction reached with
  | refl => exact tallies_start
  | tail earlier step ih => exact ih.step step

/-- A step counts the exchange that it ends, and nothing if it ends none. -/
theorem Step.counts (step : Step service traffic next) :
    next.exchanges = traffic.exchanges ∧ next.metrics = traffic.metrics ∨
      ∃ exchange, next.exchanges = exchange :: traffic.exchanges ∧
        exchange.Counts traffic.metrics next.metrics := by
  cases step with
  | arrive http => exact .inl ⟨rfl, rfl⟩
  | answer http pending lookup isPending =>
      exact .inr ⟨_, rfl, (service.withLookup lookup).counts_record traffic.metrics http⟩
  | abandon http pending isPending => exact .inl ⟨rfl, rfl⟩

/-- However many requests a service has answered, in whatever order, and whatever the
lookups for them came to: each counter tells how many of the exchanges show its decision,
an exchange is counted once if it shows one, only decisions about known kinds are counted,
and the same exchanges in any other order lead to the same counters. -/
theorem metrics_tally (reached : Reached service traffic) :
    (∀ observation,
      traffic.metrics.count observation = tally traffic.exchanges observation) ∧
    (∀ observation number, (observation, number) ∈ traffic.metrics.counters ↔
      0 < number ∧ tally traffic.exchanges observation = number) ∧
    (∀ counter ∈ traffic.metrics.counters, counter.1.IsKnown) ∧
    (∀ next, Step service traffic next →
      next.exchanges = traffic.exchanges ∧ next.metrics = traffic.metrics ∨
        ∃ exchange, next.exchanges = exchange :: traffic.exchanges ∧
          exchange.Counts traffic.metrics next.metrics) ∧
    (∀ otherService other, Reached otherService other →
      traffic.exchanges.Perm other.exchanges →
        traffic.metrics.counters.Perm other.metrics.counters ∧
          traffic.metrics.exposition = other.metrics.exposition) := by
  have tallies := reached.tallies
  refine ⟨tallies.count_eq, ?_, tallies.known, fun _ step => step.counts, ?_⟩
  · intro observation number
    rw [tallies.wellFormed.mem_counters_iff, tallies.count_eq]
  · intro otherService other otherReached perm
    have otherTallies := otherReached.tallies
    have same := tallies.wellFormed.perm_counters otherTallies.wellFormed fun observation => by
      rw [tallies.count_eq, otherTallies.count_eq, tally_perm perm]
    exact ⟨same, Metrics.exposition_eq_of_perm same⟩

/-- Deleting an extension is allowed. -/
theorem observation_deletion :
    (Demo.idle.handle Demo.deletion).observation = some ⟨"Extension", .allowed⟩ := by
  have ⟨type, request, asks, _, isExtension, isKind, isDelete⟩ := Demo.deletion_asks
  have accepted : Demo.idle.validator.validate request = .ok () := if_pos isDelete
  rw [Demo.idle.handle_of_asks asks, Service.handleRequest_of_extension _ _ isExtension,
    Service.handleExtension, accepted, isKind]

/-- Two requests about an extension come in, and one of them is answered. -/
theorem metrics_tally_demo :
    ∃ traffic, Reached Demo.idle traffic ∧
      traffic.metrics.count ⟨"Extension", .allowed⟩ = 1 ∧
      tally traffic.exchanges ⟨"Extension", .allowed⟩ = 1 := by
  have arrived : Reached Demo.idle ⟨[Demo.deletion, Demo.deletion], [], .empty⟩ :=
    (Relation.ReflTransGen.single (.arrive Demo.deletion)).tail (.arrive Demo.deletion)
  have reached := arrived.tail
    (.answer Demo.deletion [Demo.deletion] Demo.idle.mutator.lookup (.refl _))
  have isOne : (Service.record .empty (Demo.idle.handle Demo.deletion)).count
      ⟨"Extension", .allowed⟩ = 1 := by rw [Service.record, observation_deletion]; rfl
  have counted := (metrics_tally reached).1 ⟨"Extension", .allowed⟩
  exact ⟨_, reached, isOne, counted.symm.trans isOne⟩

end Traffic

end GatewayAcl.Admission
