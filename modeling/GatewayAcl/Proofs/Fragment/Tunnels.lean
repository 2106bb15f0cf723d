import GatewayAcl.Proofs.Fragment.Enforcement
import GatewayAcl.Proofs.Text.Pieces

/-!
# What the fragments for tunnels enforce

The listener for tunnels is shared by all shoots, and a header says which shoot a
tunnel leads to.  The fragment for one shoot denies what the shoot's guard denies
inside the gateway, but only of the traffic that names the shoot.  In the fragment for
several shoots each of them is guarded as if it were alone: since an id without dots
stands between two dots only as a segment of the header, no other shoot's id can be
mistaken for it.
-/

namespace GatewayAcl

open Net Rbac Text

namespace Rbac.Request

/-- The connection that a request is made on, which has the same addresses and no
headers. -/
def connection (request : Request) : Request :=
  { request with header? := fun _ => none }

@[simp] theorem address_connection (request : Request) (matcher : Matcher) :
    request.connection.address matcher = request.address matcher := by
  cases matcher <;> rfl

/-- A request is for the tunnel of a shoot: its tunnel header is there and contains the
shoot's id between two dots. -/
def IsFor (request : Request) (shootId : String) : Prop :=
  ∃ value, request.header? "reversed-vpn" = some value ∧
    ("." ++ shootId ++ ".").toList <:+: value.toList

/-- An id is a segment of a request's tunnel header, and neither the first nor the last
one. -/
def HasSegment (request : Request) (shootId : String) : Prop :=
  ∃ value, request.header? "reversed-vpn" = some value ∧
    shootId.toList ∈ enclosedPieces '.' value.toList

/-- An id without dots is found between dots exactly where it is a segment. -/
theorem isFor_iff_hasSegment {request : Request} {shootId : String}
    (plain : '.' ∉ shootId.toList) : request.IsFor shootId ↔ request.HasSegment shootId := by
  have marked : ("." ++ shootId ++ ".").toList = '.' :: (shootId.toList ++ ['.']) := by
    simp
  simp only [IsFor, HasSegment, marked, enclosed_isInfix_iff plain]

end Rbac.Request

namespace Guard

variable (guard : Guard) (shootId : String) (request : Request)

/-- A connection is denied inside the gateway if the guard does not admit its address. -/
theorem permits_internal_connection :
    guard.internal.filter.permits request.connection = false ↔
      ¬ guard.Admits (request.address guard.rule.matcher) := by
  have permits := guard.permits_networkFilter ("acl-internal-" ++ guard.rule.matcher.name)
    request.connection
  rw [Request.address_connection] at permits
  rw [← permits, Bool.not_eq_true]
  rfl

/-- What a tunnel denies is what names the shoot and is denied inside the gateway.  A
rule that allows gets there by a double negation, and one that denies directly. -/
theorem holds_tunnelPrincipal :
    (guard.tunnelPrincipal shootId).holds request = true ↔
      request.IsFor shootId ∧ guard.internal.filter.permits request.connection = false := by
  have matched := guard.holds_principals request
  rw [permits_internal_connection, and_comm, tunnelPrincipal, Principal.holds_pair,
    Principal.holds_headerContains, vpnHeader, Request.IsFor]
  cases action : guard.rule.action with
  | allow =>
      simp only [action] at matched
      rw [Principal.holds_not, Principal.holds_any, matched]
  | deny =>
      simp only [action] at matched
      rw [Principal.holds_any, matched]

/-- The fragment for a tunnel enforces what the fragment inside the gateway does, on
this shoot's tunnel only.  It denies a request exactly if the tunnel header is there and
contains the shoot's id between two dots, and the filter inside the gateway does not let
the addresses through. -/
theorem permits_vpn_iff :
    (guard.vpn shootId).filter.config.rules.action = .deny ∧
    ((guard.vpn shootId).filter.permits request = false ↔
      (∃ value, request.header? "reversed-vpn" = some value ∧
        ("." ++ shootId ++ ".").toList <:+: value.toList) ∧
      guard.internal.filter.permits request.connection = false) := by
  constructor
  · rfl
  · rw [vpn, Fragment.filter, tunnelPatch, ← Bool.not_eq_true, Filter.permits_single]
    simp only [List.mem_singleton, exists_eq_left, Classical.not_not, holds_tunnelPrincipal,
      Request.IsFor]

end Guard

namespace Tenant

section

variable {tenants others : List Tenant} {request : Request}

/-- No id of a list of shoots contains a dot. -/
def PlainIds (tenants : List Tenant) : Prop :=
  ∀ tenant ∈ tenants, '.' ∉ tenant.shootId.toList

/-- Two lists hold the same shoots among those whose ids are segments of a request's
tunnel header. -/
def AgreeFor (request : Request) (tenants others : List Tenant) : Prop :=
  ∀ tenant : Tenant, request.HasSegment tenant.shootId → (tenant ∈ tenants ↔ tenant ∈ others)

theorem AgreeFor.symm (agree : AgreeFor request tenants others) :
    AgreeFor request others tenants := by
  intro tenant segment
  exact (agree tenant segment).symm

/-- The shared fragment denies what is denied in the tunnel of one of its shoots. -/
theorem permits_legacyVpn (plain : PlainIds tenants) :
    (legacyVpn tenants).filter.permits request = false ↔
      ∃ tenant ∈ tenants, request.HasSegment tenant.shootId ∧
        tenant.guard.internal.filter.permits request.connection = false := by
  rw [legacyVpn, Fragment.filter, tunnelPatch, ← Bool.not_eq_true, Filter.permits_single,
    Classical.not_not]
  constructor
  · intro ⟨id, listed, holds⟩
    obtain ⟨tenant, member, rfl⟩ := List.mem_map.mp listed
    obtain ⟨isFor, denied⟩ := (tenant.guard.holds_tunnelPrincipal _ request).mp holds
    exact ⟨tenant, member, (Request.isFor_iff_hasSegment (plain tenant member)).mp isFor, denied⟩
  · intro ⟨tenant, member, segment, denied⟩
    have isFor := (Request.isFor_iff_hasSegment (plain tenant member)).mpr segment
    exact ⟨_, List.mem_map_of_mem member,
      (tenant.guard.holds_tunnelPrincipal _ request).mpr ⟨isFor, denied⟩⟩

/-- What is denied remains denied by a list that agrees on the shoots of the request. -/
theorem AgreeFor.denied (agree : AgreeFor request tenants others) (plain : PlainIds tenants)
    (plainOthers : PlainIds others)
    (denied : (legacyVpn tenants).filter.permits request = false) :
    (legacyVpn others).filter.permits request = false := by
  obtain ⟨tenant, member, segment, deniedInside⟩ := (permits_legacyVpn plain).mp denied
  apply (permits_legacyVpn plainOthers).mpr
  exact ⟨tenant, (agree tenant segment).mp member, segment, deniedInside⟩

/-- Shoots that share a fragment are isolated from each other.  Where no id contains a
dot, the fragment denies a request exactly if the tunnel header is there and one of its
inner segments is the id of a shoot whose own filter inside the gateway does not let the
addresses through.  So lists that agree on the shoots whose ids are such segments give
the same verdict, whatever else they hold and in whichever order. -/
theorem legacyVpn_isolates (plain : PlainIds tenants) :
    ((legacyVpn tenants).filter.permits request = false ↔
      ∃ value, request.header? "reversed-vpn" = some value ∧
        ∃ tenant ∈ tenants, tenant.shootId.toList ∈ enclosedPieces '.' value.toList ∧
          tenant.guard.internal.filter.permits request.connection = false) ∧
    ∀ others, PlainIds others → AgreeFor request tenants others →
      (legacyVpn others).filter.permits request = (legacyVpn tenants).filter.permits request := by
  constructor
  · rw [permits_legacyVpn plain]
    constructor
    · intro ⟨tenant, member, ⟨value, given, segment⟩, denied⟩
      exact ⟨value, given, tenant, member, segment, denied⟩
    · intro ⟨value, given, tenant, member, segment, denied⟩
      exact ⟨tenant, member, ⟨value, given, segment⟩, denied⟩
  · intro others plainOthers agree
    rw [Bool.eq_iff_iff, ← not_iff_not, Bool.not_eq_true, Bool.not_eq_true]
    constructor
    · intro denied
      exact agree.symm.denied plainOthers plain denied
    · intro denied
      exact agree.denied plain plainOthers denied

end

namespace Demo

/-- A guard that lets a small network through and nothing else. -/
def guard : Guard := ⟨⟨.allow, .remoteIp, [.v4 0x0a000000#32 ⟨24, by decide⟩]⟩, []⟩

def own : Tenant := ⟨"shoot-a", guard⟩

/-- A shoot whose id begins like the other's, with a guard that lets nothing through. -/
def longer : Tenant := ⟨"shoot-ab", ⟨⟨.allow, .remoteIp, []⟩, []⟩⟩

/-- A request for the tunnel of the first shoot, from outside of its network. -/
def request : Request where
  source := .v4 0xc0000201#32
  remote := .v4 0xc0000201#32
  directRemote := .v4 0xc0000201#32
  header? := fun _ => some "outbound|1194||vpn.shoot-a.svc"

theorem denied : guard.internal.filter.permits request.connection = false := by
  rw [Guard.permits_internal_connection]
  intro admitted
  rcases admitted with ⟨network, listed, inside⟩ | ⟨network, listed, _⟩
  · cases List.mem_singleton.mp listed
    exact absurd inside (by decide)
  · cases listed

end Demo

/-- A shoot's request is denied, with and without another shoot whose id begins like the
shoot's own. -/
theorem legacyVpn_isolates_demo :
    PlainIds [Demo.longer, Demo.own] ∧ PlainIds [Demo.own] ∧
      AgreeFor Demo.request [Demo.longer, Demo.own] [Demo.own] ∧
      (legacyVpn [Demo.longer, Demo.own]).filter.permits Demo.request = false ∧
      (legacyVpn [Demo.own]).filter.permits Demo.request = false := by
  have plain : PlainIds [Demo.longer, Demo.own] := by
    simp [PlainIds, Demo.longer, Demo.own]
  have plainOwn : PlainIds [Demo.own] := by
    simp [PlainIds, Demo.own]
  have agree : AgreeFor Demo.request [Demo.longer, Demo.own] [Demo.own] := by
    intro tenant ⟨value, given, segment⟩
    have distinct : tenant ≠ Demo.longer := by
      intro same
      subst same
      cases given
      exact absurd segment (by decide)
    simp [distinct]
  have denied : (legacyVpn [Demo.longer, Demo.own]).filter.permits Demo.request = false :=
    (legacyVpn_isolates plain).1.mpr ⟨_, rfl, Demo.own, by simp, by decide, Demo.denied⟩
  have same := (legacyVpn_isolates plain).2 _ plainOwn agree
  exact ⟨plain, plainOwn, agree, denied, same.trans denied⟩

end Tenant

end GatewayAcl
