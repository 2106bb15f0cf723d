import GatewayAcl.Fragment.Basic
import GatewayAcl.Rbac.Wire

/-!
# Fragments on the wire

How fragments are written as JSON and read back. The kind of a fragment is not
part of its written form, so a reader has to know it.
-/

namespace GatewayAcl

namespace Layer

/-- The layers under their written forms. -/
def known : List (String × Layer) :=
  [("NETWORK_FILTER", .network), ("HTTP_FILTER", .http)]

def name : Layer → String
  | .network => "NETWORK_FILTER"
  | .http => "HTTP_FILTER"

end Layer

namespace FilterSelector

def subFilterShape : Shape String where
  name := "SubFilterMatch"
  strictness := .lenient
  blank := ""
  fields := [.required "name" .string fun _ value => value]

def encodeSubFilter (name : String) : Json :=
  .record [("name", .string name)]

def shape : Shape FilterSelector where
  name := "FilterMatch"
  strictness := .lenient
  blank := ⟨"", none⟩
  fields := [
    .required "name" .string fun selector value => { selector with name := value },
    .optional "subFilter" subFilterShape.decoder fun selector value =>
      { selector with subFilter := value }]

def encode (selector : FilterSelector) : Json :=
  .record <|
    ("name", .string selector.name) ::
    Json.optionalMember "subFilter" encodeSubFilter selector.subFilter

end FilterSelector

namespace ChainSelector

def shape : Shape ChainSelector where
  name := "FilterChainMatch"
  strictness := .lenient
  blank := ⟨none, FilterSelector.shape.blank⟩
  fields := [
    .optional "sni" .string fun selector value => { selector with sni := value },
    .required "filter" FilterSelector.shape.decoder fun selector value =>
      { selector with filter := value }]

def encode (selector : ChainSelector) : Json :=
  .record <|
    Json.optionalMember "sni" .string selector.sni ++
    [("filter", selector.filter.encode)]

end ChainSelector

namespace ListenerSelector

def shape : Shape ListenerSelector where
  name := "ListenerMatch"
  strictness := .lenient
  blank := ⟨none, ChainSelector.shape.blank⟩
  fields := [
    .optional "portNumber" Rbac.word fun selector value => { selector with port := value },
    .required "filterChain" ChainSelector.shape.decoder fun selector value =>
      { selector with chain := value }]

def encode (selector : ListenerSelector) : Json :=
  .record <|
    Json.optionalMember "portNumber" (fun port : UInt32 => .ofNat port.toNat) selector.port ++
    [("filterChain", selector.chain.encode)]

end ListenerSelector

namespace GatewayPatch

/-- The only part of a mesh that patches apply to. -/
def context : String := "GATEWAY"

/-- The only thing that patches do. -/
def operation : String := "INSERT_BEFORE"

def matchShape : Shape ListenerSelector where
  name := "PatchMatch"
  strictness := .lenient
  blank := ListenerSelector.shape.blank
  fields := [
    .required "context" (.enumeration [(context, ())]) fun selector _ => selector,
    .required "listener" ListenerSelector.shape.decoder fun _ value => value]

def encodeMatch (selector : ListenerSelector) : Json :=
  .record [("context", .string context), ("listener", selector.encode)]

def valueShape : Shape Rbac.Filter where
  name := "PatchValue"
  strictness := .lenient
  blank := Rbac.Filter.shape.blank
  fields := [
    .required "operation" (.enumeration [(operation, ())]) fun filter _ => filter,
    .required "value" Rbac.Filter.shape.decoder fun _ value => value]

def encodeValue (filter : Rbac.Filter) : Json :=
  .record [("operation", .string operation), ("value", filter.encode)]

def shape : Shape GatewayPatch where
  name := "ConfigPatch"
  strictness := .lenient
  blank := ⟨.network, ListenerSelector.shape.blank, Rbac.Filter.shape.blank⟩
  fields := [
    .required "applyTo" (.enumeration Layer.known) fun patch value => { patch with layer := value },
    .required "match" matchShape.decoder fun patch value => { patch with listener := value },
    .required "patch" valueShape.decoder fun patch value => { patch with filter := value }]

def encode (patch : GatewayPatch) : Json :=
  .record [
    ("applyTo", .string patch.layer.name),
    ("match", encodeMatch patch.listener),
    ("patch", encodeValue patch.filter)]

end GatewayPatch

namespace Fragment

def encode : Fragment → Json
  | .internal filter => filter.encode
  | .publicApi patch => patch.encode
  | .vpn patch => patch.encode
  | .legacyVpn patch => patch.encode

/-- The fragment of a kind that a value holds. -/
def decode (kind : Kind) (json : Json) : Except DecodeError Fragment :=
  match kind with
  | .internal => (Rbac.Filter.shape.decoder.ofJson json).map .internal
  | .publicApi => (GatewayPatch.shape.decoder.ofJson json).map .publicApi
  | .vpn => (GatewayPatch.shape.decoder.ofJson json).map .vpn
  | .legacyVpn => (GatewayPatch.shape.decoder.ofJson json).map .legacyVpn

end Fragment

end GatewayAcl
