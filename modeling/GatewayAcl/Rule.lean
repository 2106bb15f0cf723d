import GatewayAcl.Net.Network
import GatewayAcl.Text.Quoted
import GatewayAcl.Json.Basic

/-!
# Access rules

A rule allows or denies connections by one of their addresses. Rules are
submitted as drafts, whose parts are plain text; `Rule.validate` turns a draft
into a rule or names the first thing that is wrong with it, and `Rule.draft`
writes a rule down again.
-/

namespace GatewayAcl

open Net

/-- What a rule does with the connections it matches. -/
inductive Action where
  | allow
  | deny
  deriving DecidableEq, Repr

namespace Action

def name : Action → String
  | .allow => "ALLOW"
  | .deny => "DENY"

/-- The actions under their written forms. -/
def known : List (String × Action) :=
  [("ALLOW", .allow), ("DENY", .deny)]

def parse? (text : String) : Option Action :=
  known.lookup text

def encode (action : Action) : Json :=
  .string action.name

end Action

/-- Selects which address of a connection is matched. -/
inductive Matcher where
  /-- The source address of the downstream connection. -/
  | sourceIp
  /-- The client's address as trusted proxies report it. -/
  | remoteIp
  /-- The address of the peer that is connected directly. -/
  | directRemoteIp
  deriving DecidableEq, Repr

namespace Matcher

def name : Matcher → String
  | .sourceIp => "source_ip"
  | .remoteIp => "remote_ip"
  | .directRemoteIp => "direct_remote_ip"

/-- The matchers under their written forms. -/
def known : List (String × Matcher) :=
  [("source_ip", .sourceIp), ("remote_ip", .remoteIp), ("direct_remote_ip", .directRemoteIp)]

def parse? (text : String) : Option Matcher :=
  known.lookup text

end Matcher

/-- A rule as it was submitted. Parts that were left out are empty. -/
structure DraftRule where
  action : String
  matcher : String
  cidrs : List String
  deriving DecidableEq, Repr

/-- A rule that can be enforced. -/
structure Rule where
  action : Action
  matcher : Matcher
  networks : List Network
  deriving DecidableEq, Repr

inductive RuleError where
  | missing
  | invalidAction (text : String)
  | invalidMatcher (text : String)
  | missingCidrs
  | invalidCidr (text : String)
  deriving DecidableEq, Repr

def RuleError.message : RuleError → String
  | .missing => "no ACL rule given"
  | .invalidAction text => "invalid action " ++ Text.quote text ++ ": must be ALLOW or DENY"
  | .invalidMatcher text =>
      "invalid type " ++ Text.quote text ++
        ": must be one of source_ip, remote_ip, direct_remote_ip"
  | .missingCidrs => "no CIDRs given"
  | .invalidCidr text => "invalid CIDR " ++ Text.quote text ++ ": " ++ malformedAddress

namespace Rule

def parseAction (text : String) : Except RuleError Action :=
  match Action.parse? text with
  | some action => .ok action
  | none => .error (.invalidAction text)

def parseMatcher (text : String) : Except RuleError Matcher :=
  match Matcher.parse? text with
  | some matcher => .ok matcher
  | none => .error (.invalidMatcher text)

/-- The networks of a list of texts, or the error of the first text that spells
none. -/
def parseNetworks : List String → Except RuleError (List Network)
  | [] => .ok []
  | text :: rest =>
      match Network.parse? text with
      | none => .error (.invalidCidr text)
      | some network => (parseNetworks rest).map (network :: ·)

/-- The rule of a draft. The checks have a fixed order, so a draft with several
faults is always refused for the same one: presence, action, matcher, presence
of CIDRs, and the CIDRs from the first to the last. -/
def validate : Option DraftRule → Except RuleError Rule
  | none => .error .missing
  | some draft => do
      let action ← parseAction draft.action
      let matcher ← parseMatcher draft.matcher
      if draft.cidrs.isEmpty then .error .missingCidrs
      else
        let networks ← parseNetworks draft.cidrs
        .ok ⟨action, matcher, networks⟩

/-- A rule written down. -/
def draft (rule : Rule) : DraftRule :=
  ⟨rule.action.name, rule.matcher.name, rule.networks.map Network.print⟩

end Rule

structure TooManyCidrs where
  actual : Nat
  limit : Nat
  deriving DecidableEq, Repr

namespace TooManyCidrs

/-- Where an extension lists the CIDRs of its rule. -/
def field : String := "spec.providerConfig.rule.cidrs"

def message (error : TooManyCidrs) : String :=
  field ++ ": Too many: " ++ toString error.actual ++ ": must have at most " ++
    toString error.limit ++ " items"

end TooManyCidrs

/-- Refuses a draft that lists more CIDRs than the limit. -/
def DraftRule.checkCount (draft : DraftRule) (limit : Nat) : Except TooManyCidrs Unit :=
  if limit < draft.cidrs.length then .error ⟨draft.cidrs.length, limit⟩ else .ok ()

/-- The number of CIDRs that a rule may list unless an operator says otherwise. -/
def defaultCidrLimit : Nat := 50

end GatewayAcl
