import GatewayAcl.Rule
import GatewayAcl.Json.Shape

/-!
# Provider configurations

What a user writes into an extension: at most one rule. Misspelt members are
refused rather than ignored, since an ignored member would silently change what
is enforced.
-/

namespace GatewayAcl

namespace DraftRule

/-- The shape of a draft. Members that are left out are empty. -/
def shape : Shape DraftRule where
  name := "Rule"
  strictness := .strict
  blank := ⟨"", "", []⟩
  fields := [
    .defaulted "action" .string fun draft value => { draft with action := value },
    .defaulted "type" .string fun draft value => { draft with matcher := value },
    .defaulted "cidrs" (.list .string) fun draft value => { draft with cidrs := value }]

def encode (draft : DraftRule) : Json :=
  .record [
    ("action", .string draft.action),
    ("type", .string draft.matcher),
    ("cidrs", .array (draft.cidrs.map .string))]

end DraftRule

/-- The configuration of an extension. One without a rule enforces nothing. -/
structure ProviderConfig where
  rule : Option DraftRule
  deriving DecidableEq, Repr

namespace ProviderConfig

def shape : Shape ProviderConfig where
  name := "ProviderConfig"
  strictness := .strict
  blank := ⟨none⟩
  fields := [
    .optional "rule" DraftRule.shape.decoder fun config value => { config with rule := value }]

def decode (raw : Json) : Except DecodeError ProviderConfig :=
  shape.decoder.ofJson raw

def encode (config : ProviderConfig) : Json :=
  .record (Json.optionalMember "rule" DraftRule.encode config.rule)

end ProviderConfig

end GatewayAcl
