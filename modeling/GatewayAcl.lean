import GatewayAcl.Main
import GatewayAcl.Proofs.Admission.Agreement
import GatewayAcl.Proofs.Admission.Applicability
import GatewayAcl.Proofs.Admission.Independence
import GatewayAcl.Proofs.Admission.ServerAnswers
import GatewayAcl.Proofs.Admission.Tallies
import GatewayAcl.Proofs.Fragment.Acceptance
import GatewayAcl.Proofs.Fragment.Tunnels
import GatewayAcl.Proofs.Fragment.WireFormat
import GatewayAcl.Proofs.Kube.DocumentOrder
import GatewayAcl.Proofs.Kube.NormalForms
import GatewayAcl.Proofs.Net.NetworkLists
import GatewayAcl.Proofs.Provider.Registrations
import GatewayAcl.Proofs.Provider.RouterAddress
import GatewayAcl.Proofs.ProviderConfiguration
import GatewayAcl.Proofs.Rbac.RangeTexts
import GatewayAcl.Proofs.RuleValidation
import GatewayAcl.Simulation.Session
