import GatewayAcl.Fragment.Wire
import GatewayAcl.Proofs.Rbac.WireFormat

/-!
# Fragments survive the wire

A fragment that has been written as JSON reads back as itself, whoever has built it.
Its kind is not part of what is written, but a bare filter and a patch have no field
in common.  So a reader who takes one for the other is told that fields are missing.
-/

namespace GatewayAcl

theorem Layer.decoder_name (layer : Layer) :
    (Decoder.enumeration Layer.known).ofJson (.string layer.name) = .ok layer := by
  cases layer with
  | network => rfl
  | http => rfl

namespace FilterSelector

theorem orderly : shape.Orderly :=
  .pair (by decide) (by intros; rfl)

theorem member?_encode (selector : FilterSelector) :
    selector.encode.member? "name" = some (.string selector.name) ∧
      selector.encode.member? "subFilter" = selector.subFilter.map encodeSubFilter := by
  obtain ⟨name, subFilter⟩ := selector
  cases subFilter with
  | none => exact ⟨rfl, rfl⟩
  | some text => exact ⟨rfl, rfl⟩

theorem decoder_encode (selector : FilterSelector) :
    shape.decoder.ofJson selector.encode = .ok selector := by
  have ⟨name, subFilter⟩ := selector.member?_encode
  apply Shape.Reads.decoder orderly (by decide)
  refine .required name rfl ?_
  refine .optional subFilter (by simp [encodeSubFilter, Json.record]) (fun _ => rfl) rfl ?_
  exact .nil selector

end FilterSelector

namespace ChainSelector

theorem orderly : shape.Orderly :=
  .pair (by decide) (by intros; rfl)

theorem member?_encode (selector : ChainSelector) :
    selector.encode.member? "sni" = selector.sni.map .string ∧
      selector.encode.member? "filter" = some selector.filter.encode := by
  obtain ⟨sni, filter⟩ := selector
  cases sni with
  | none => exact ⟨rfl, rfl⟩
  | some text => exact ⟨rfl, rfl⟩

theorem decoder_encode (selector : ChainSelector) :
    shape.decoder.ofJson selector.encode = .ok selector := by
  have ⟨sni, filter⟩ := selector.member?_encode
  apply Shape.Reads.decoder orderly (by decide)
  refine .optional sni (by simp) (fun _ => rfl) rfl ?_
  refine .required filter selector.filter.decoder_encode ?_
  exact .nil selector

end ChainSelector

namespace ListenerSelector

theorem orderly : shape.Orderly :=
  .pair (by decide) (by intros; rfl)

theorem member?_encode (selector : ListenerSelector) :
    selector.encode.member? "portNumber" =
        selector.port.map (fun port => .ofNat port.toNat) ∧
      selector.encode.member? "filterChain" = some selector.chain.encode := by
  obtain ⟨port, chain⟩ := selector
  cases port with
  | none => exact ⟨rfl, rfl⟩
  | some number => exact ⟨rfl, rfl⟩

theorem decoder_encode (selector : ListenerSelector) :
    shape.decoder.ofJson selector.encode = .ok selector := by
  have ⟨port, chain⟩ := selector.member?_encode
  apply Shape.Reads.decoder orderly (by decide)
  refine .optional port (by simp [Json.ofNat]) Rbac.word_ofNat rfl ?_
  refine .required chain selector.chain.decoder_encode ?_
  exact .nil selector

end ListenerSelector

namespace GatewayPatch

theorem orderly : shape.Orderly :=
  .triple (by decide) (by intros; rfl) (by intros; rfl) (by intros; rfl)

theorem decoder_encodeMatch (selector : ListenerSelector) :
    matchShape.decoder.ofJson (encodeMatch selector) = .ok selector :=
  Shape.decoder_pair (by decide) rfl selector.decoder_encode

theorem decoder_encodeValue (filter : Rbac.Filter) :
    valueShape.decoder.ofJson (encodeValue filter) = .ok filter :=
  Shape.decoder_pair (by decide) rfl filter.decoder_encode

theorem decoder_encode (patch : GatewayPatch) :
    shape.decoder.ofJson patch.encode = .ok patch := by
  apply Shape.Reads.decoder orderly (by decide)
  refine .required rfl patch.layer.decoder_name ?_
  refine .required rfl (decoder_encodeMatch patch.listener) ?_
  refine .required rfl (decoder_encodeValue patch.filter) ?_
  exact .nil patch

/-- A bare filter is no patch. -/
theorem decoder_filter (filter : Rbac.Filter) :
    shape.decoder.ofJson filter.encode = .error (.missingField "applyTo") := by
  apply Shape.decoder_of_strangers (by decide) _ rfl
  simp [shape, Shape.names, Field.required]

end GatewayPatch

/-- A patch is no bare filter. -/
theorem Rbac.Filter.decoder_patch (patch : GatewayPatch) :
    shape.decoder.ofJson patch.encode = .error (.missingField "name") := by
  apply Shape.decoder_of_strangers (by decide) _ rfl
  simp [shape, Shape.names, Field.required]

namespace Fragment

/-- Fragments of the kind are patches, and not bare filters. -/
def Kind.isPatch : Kind → Bool
  | .internal => false
  | .publicApi => true
  | .vpn => true
  | .legacyVpn => true

theorem decode_filter_eq_error_iff (filter : Rbac.Filter) (kind : Kind) :
    (∃ error, decode kind filter.encode = .error error) ↔ kind.isPatch ≠ false := by
  cases kind with
  | internal => simp [decode, Kind.isPatch, filter.decoder_encode, Except.map]
  | publicApi | vpn | legacyVpn =>
      simp [decode, Kind.isPatch, GatewayPatch.decoder_filter, Except.map]

theorem decode_patch_eq_error_iff (patch : GatewayPatch) (kind : Kind) :
    (∃ error, decode kind patch.encode = .error error) ↔ kind.isPatch ≠ true := by
  cases kind with
  | internal => simp [decode, Kind.isPatch, Rbac.Filter.decoder_patch, Except.map]
  | publicApi | vpn | legacyVpn =>
      simp [decode, Kind.isPatch, patch.decoder_encode, Except.map]

/-- A fragment reads back as itself under its own kind.  Under another kind it is refused
exactly if one of the two is a kind of patches and the other that of bare filters. -/
theorem decode_kind_encode (fragment : Fragment) :
    decode fragment.kind fragment.encode = .ok fragment ∧
      ∀ kind, (∃ error, decode kind fragment.encode = .error error) ↔
        kind.isPatch ≠ fragment.kind.isPatch := by
  constructor
  · cases fragment with
    | internal filter => exact congrArg (Except.map _) filter.decoder_encode
    | publicApi patch | vpn patch | legacyVpn patch =>
        exact congrArg (Except.map _) patch.decoder_encode
  · intro kind
    cases fragment with
    | internal filter => exact decode_filter_eq_error_iff filter kind
    | publicApi patch | vpn patch | legacyVpn patch =>
        exact decode_patch_eq_error_iff patch kind

end Fragment

end GatewayAcl
