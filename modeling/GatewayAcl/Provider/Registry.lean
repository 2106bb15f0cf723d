import GatewayAcl.Provider.OpenStack

/-!
# Registry of providers

Some providers route the traffic of a shoot's own nodes through addresses that
belong to none of its networks. For these the registry holds a function from the
status of an infrastructure to the networks that have to be added.
-/

namespace GatewayAcl

open Net

/-- Finds the networks that a provider adds in the status it has reported. -/
abbrev Extraction := Json → Except ProviderError (List Network)

/-- The extractions of the known providers, by the provider's name. -/
structure Registry where
  extraction? : String → Option Extraction

namespace Registry

def empty : Registry := ⟨fun _ => none⟩

/-- Adds a provider. An earlier extraction under the same name is replaced. -/
def register (registry : Registry) (name : String) (extraction : Extraction) : Registry :=
  ⟨fun other => if other = name then some extraction else registry.extraction? other⟩

def isRegistered (registry : Registry) (name : String) : Bool :=
  (registry.extraction? name).isSome

/-- The networks that a provider adds to a shoot. An unknown provider adds none.
A known one needs a status to say so. -/
def allowedNetworks (registry : Registry) (name : String) (status : Option Json) :
    Except ProviderError (List Network) :=
  match registry.extraction? name, status with
  | none, _ => .ok []
  | some _, none => .error (.missingStatus name)
  | some extraction, some status => extraction status

/-- The registry of the providers that are supported out of the box. -/
def standard : Registry :=
  empty.register OpenStack.providerName OpenStack.allowedNetworks

end Registry

end GatewayAcl
