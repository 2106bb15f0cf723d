import GatewayAcl.Provider.Registry
import GatewayAcl.Proofs.Json.Notations
import GatewayAcl.Proofs.Json.Restoring
import GatewayAcl.Proofs.Net.HostNetworks

/-!
# The address of a router

The status of an infrastructure adds one host to a shoot's networks, the router.  Where in
the status its address stands is said here without decoding, and what it is without reading
it: so the extraction fails exactly if there is none.
-/

namespace GatewayAcl

open Net

/-- The one field that matters of a value: the member of that name, or the only item. -/
inductive Json.SoleField (name : String) : Json → Json → Prop where
  | keyed {members : List (String × Json)} {value : Json} :
      members.lookup name = some value → SoleField name (.object members) value
  | positional (value : Json) : SoleField name (.array [value]) value

namespace Shape

/-- The shape of a record of which one field matters, which has to be given. -/
def sole {α : Type} (title name : String) (decoder : Decoder α) (blank : α) : Shape α where
  name := title
  strictness := .lenient
  blank := blank
  fields := [.required name decoder fun _ value => value]

variable {α : Type} {title name : String} {decoder : Decoder α} {blank : α}

theorem fits_sole_iff {json inner : Json} :
    (sole title name decoder blank).Fits json ∧
        (sole title name decoder blank).given json name = some inner ↔
      json.SoleField name inner := by
  have placedFirst (item : Json) (items : List Json) :
      (sole title name decoder blank).given (.array (item :: items)) name = some item :=
    placed_cons_self (.required name decoder fun _ value => value) [] item items
  constructor
  · intro ⟨fits, found⟩
    cases fits with
    | keyed _ => exact .keyed found
    | @positional items _ short _ =>
        match items, short with
        | [], _ => cases found
        | [item], _ =>
            rw [placedFirst, Option.some.injEq] at found
            subst found
            exact .positional item
  · intro isField
    cases isField with
    | keyed found => exact ⟨.keyed fun _ _ => .inr nofun, found⟩
    | positional _ => exact ⟨.positional nofun (Nat.le_refl 1) nofun, placedFirst inner []⟩

theorem decoder_sole_eq_ok_iff {json : Json} (canonical : json.Canonical) {value : α} :
    (sole title name decoder blank).decoder.ofJson json = .ok value ↔
      ∃ inner, json.SoleField name inner ∧ decoder.ofJson inner = .ok value := by
  have orderly : (sole title name decoder blank).Orderly :=
    ⟨List.pairwise_singleton _ _, List.pairwise_singleton _ _⟩
  rw [decoder_eq_ok_iff orderly canonical]
  simp only [sole, assembles_required_iff, assembles_nil_iff]
  constructor
  · intro ⟨fits, _, ⟨inner, found, read⟩, same⟩
    subst same
    exact ⟨inner, fits_sole_iff.mp ⟨fits, found⟩, read⟩
  · intro ⟨inner, isField, read⟩
    have isGiven : (sole title name decoder blank).Fits json ∧ _ := fits_sole_iff.mpr isField
    exact ⟨isGiven.1, value, ⟨inner, isGiven.2, read⟩, rfl⟩

end Shape

theorem Json.SoleField.canonical {name : String} {json inner : Json}
    (isField : json.SoleField name inner) (canonical : json.Canonical) : inner.Canonical := by
  cases isField with
  | keyed found => exact canonical.lookup found
  | positional _ => exact canonical.item inner (List.mem_singleton_self inner)

namespace OpenStack

/-- A status reports a text as the router's address, in whichever notations. -/
def Reports (status : Json) (text : String) : Prop :=
  ∃ networks router, status.SoleField "networks" networks ∧ networks.SoleField "router" router ∧
    router.SoleField "ip" (.string text)

theorem statusShape_eq_ok_iff {status : Json} (canonical : status.Canonical) {text : String} :
    statusShape.decoder.ofJson status = .ok text ↔ Reports status text := by
  have readsStatus : statusShape.decoder.ofJson status = .ok text ↔
      ∃ networks, status.SoleField "networks" networks ∧
        networksShape.decoder.ofJson networks = .ok text :=
    Shape.decoder_sole_eq_ok_iff canonical
  have readsNetworks {networks : Json} (canonical : networks.Canonical) :
      networksShape.decoder.ofJson networks = .ok text ↔
        ∃ router, networks.SoleField "router" router ∧
          routerShape.decoder.ofJson router = .ok text :=
    Shape.decoder_sole_eq_ok_iff canonical
  have readsRouter {router : Json} (canonical : router.Canonical) :
      routerShape.decoder.ofJson router = .ok text ↔
        ∃ ip, router.SoleField "ip" ip ∧ Decoder.string.ofJson ip = .ok text :=
    Shape.decoder_sole_eq_ok_iff canonical
  rw [readsStatus]
  constructor
  · intro ⟨networks, isNetworks, read⟩
    have canonicalNetworks := isNetworks.canonical canonical
    have ⟨router, isRouter, read⟩ := (readsNetworks canonicalNetworks).mp read
    have canonicalRouter := isRouter.canonical canonicalNetworks
    have ⟨ip, isIp, read⟩ := (readsRouter canonicalRouter).mp read
    have isText := Decoder.exact_string (isIp.canonical canonicalRouter) read
    exact ⟨networks, router, isNetworks, isRouter, isText ▸ isIp⟩
  · intro ⟨networks, router, isNetworks, isRouter, isIp⟩
    have canonicalNetworks := isNetworks.canonical canonical
    have canonicalRouter := isRouter.canonical canonicalNetworks
    refine ⟨networks, isNetworks, (readsNetworks canonicalNetworks).mpr ?_⟩
    exact ⟨router, isRouter, (readsRouter canonicalRouter).mpr ⟨.string text, isIp, rfl⟩⟩

theorem hostNetwork_of_spells {text : String} {address : Address}
    (spelled : Spelling.strict.Spells text.toList address) :
    hostNetwork text = .ok (.host address) := by
  rw [hostNetwork, Address.parse?_eq_some_iff.mpr spelled]

theorem hostNetwork_eq_error_iff {text : String} {error : ProviderError} :
    hostNetwork text = .error error ↔
      error = .invalidAddress providerName text ∧
        ¬ ∃ address, Spelling.strict.Spells text.toList address := by
  simp only [← Address.parse?_eq_some_iff]
  rw [hostNetwork]
  cases Address.parse? .strict text with
  | none => simp [eq_comm]
  | some address => simp

theorem allowedNetworks_of_reports {status : Json} (canonical : status.Canonical) {text : String}
    (reports : Reports status text) :
    allowedNetworks status = (hostNetwork text).map fun network => [network] := by
  rw [allowedNetworks, (statusShape_eq_ok_iff canonical).mpr reports, except_mapError_ok,
    except_bind_ok]
  cases hostNetwork text <;> rfl

theorem malformedStatus_iff {status : Json} (canonical : status.Canonical) :
    (∃ error, allowedNetworks status = .error (.malformedStatus providerName error)) ↔
      ¬ ∃ text, Reports status text := by
  constructor
  · intro ⟨error, failed⟩ ⟨text, reports⟩
    rw [allowedNetworks_of_reports canonical reports, except_map_eq_error_iff,
      hostNetwork_eq_error_iff] at failed
    cases failed.1
  · intro silent
    have ⟨error, failed⟩ : ∃ error, statusShape.decoder.ofJson status = .error error := by
      rw [except_failed_iff]
      intro text decoded
      exact silent ⟨text, (statusShape_eq_ok_iff canonical).mp decoded⟩
    refine ⟨error, ?_⟩
    rw [allowedNetworks, failed]
    rfl

end OpenStack

/-- The status of an infrastructure on OpenStack adds exactly the router: the network of the
one host whose address it reports.  Where addresses stand alone fewer spellings are allowed
than in front of a length, and whatever is allowed there is the same host here.  Nothing is
added by a status without such an address, and the error says what is wrong: that there is no
text at its place, or that the text is no address. -/
theorem Registry.standard_adds_router {status : Json} (canonical : status.Canonical) :
    ((∃ error, standard.allowedNetworks "openstack" (some status) =
        .error (.malformedStatus "openstack" error)) ↔
      ¬ ∃ text, OpenStack.Reports status text) ∧
    ∀ text, OpenStack.Reports status text →
      (standard.allowedNetworks "openstack" (some status) =
          .error (.invalidAddress "openstack" text) ↔
        ¬ ∃ address, Spelling.strict.Spells text.toList address) ∧
      (∀ address, Spelling.strict.Spells text.toList address →
        ∃ network, standard.allowedNetworks "openstack" (some status) = .ok [network] ∧
          network.length = address.family.width ∧
          Network.parse? (text ++ "/" ++ toString address.family.width) = some network ∧
          ∀ other, other ∈ network ↔ other = address) ∧
      ∀ address : Address, text = address.print →
        standard.allowedNetworks "openstack" (some status) = .ok [.host address] := by
  have isExtracted : standard.allowedNetworks "openstack" (some status) =
      OpenStack.allowedNetworks status := rfl
  rw [isExtracted]
  refine ⟨OpenStack.malformedStatus_iff canonical, ?_⟩
  intro text reports
  have added (address : Address) (spelled : Spelling.strict.Spells text.toList address) :
      OpenStack.allowedNetworks status = .ok [.host address] := by
    rw [OpenStack.allowedNetworks_of_reports canonical reports,
      OpenStack.hostNetwork_of_spells spelled]
    rfl
  refine ⟨?_, ?_, ?_⟩
  · rw [OpenStack.allowedNetworks_of_reports canonical reports, except_map_eq_error_iff,
      OpenStack.hostNetwork_eq_error_iff]
    exact and_iff_right rfl
  · intro address spelled
    exact ⟨.host address, added address spelled, Network.length_host address,
      Network.parse?_host spelled, fun _ => Network.mem_host_iff⟩
  · intro address isPrinted
    apply added
    rw [isPrinted, Address.print, String.toList_ofList]
    exact address.spells_written .strict

namespace OpenStack.Demo

/-- A status in both notations, with members that nobody asks for. -/
def status : Json :=
  .object [
    ("kind", .string "InfrastructureStatus"),
    ("networks", .object [("id", .ofInt 1), ("router", .array [.string "::ffff:10.0.0.1"])])]

end OpenStack.Demo

/-- A router whose address ends in octets is added as a host of the other family. -/
theorem Registry.standard_adds_router_demo :
    OpenStack.Demo.status.Canonical ∧
      OpenStack.Reports OpenStack.Demo.status "::ffff:10.0.0.1" ∧
      ∃ network, standard.allowedNetworks "openstack" (some OpenStack.Demo.status) =
          .ok [network] ∧
        network.length = 128 ∧ Network.parse? ("::ffff:10.0.0.1" ++ "/" ++ toString 128) =
          some network ∧
        ∀ other, other ∈ network ↔ other = .v6 0xffff0a000001#128 := by
  have canonical : OpenStack.Demo.status.Canonical :=
    Document.canonical_of_toJson
      (rfl : OpenStack.Demo.status.toDocument.toJson = .ok OpenStack.Demo.status)
  have reports : OpenStack.Reports OpenStack.Demo.status "::ffff:10.0.0.1" :=
    ⟨_, _, .keyed rfl, .keyed rfl, .positional _⟩
  have spelled : Spelling.strict.Spells "::ffff:10.0.0.1".toList (.v6 0xffff0a000001#128) :=
    Address.parse?_eq_some_iff.mp (by decide +kernel)
  have ⟨_, added⟩ := standard_adds_router canonical
  have ⟨_, adds, _⟩ := added _ reports
  exact ⟨canonical, reports, adds _ spelled⟩

end GatewayAcl
