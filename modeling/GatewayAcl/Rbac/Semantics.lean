import GatewayAcl.Rbac.Filter

/-!
# What access filters do

The meaning of a filter: which requests it lets through. A filter that allows
lets through what one of its policies applies to, and a filter that denies lets
through what none of them applies to.
-/

namespace GatewayAcl.Rbac

open Net

/-- What a filter sees of a request: three addresses and the headers. A
connection is a request without headers. -/
structure Request where
  source : Address
  remote : Address
  directRemote : Address
  header? : String → Option String

/-- The address of a request that a matcher selects. -/
def Request.address (request : Request) : Matcher → Address
  | .sourceIp => request.source
  | .remoteIp => request.remote
  | .directRemoteIp => request.directRemote

/-- An address lies in a range if it has the family of the range's address and
agrees with it on the bits that count. A range whose address is no address is
empty. -/
def CidrRange.contains (range : CidrRange) (address : Address) : Bool :=
  match Address.parse? .strict range.addressPrefix, address with
  | some (.v4 bits), .v4 other => agreeOn range.prefixLength.toNat bits other
  | some (.v6 bits), .v6 other => agreeOn range.prefixLength.toNat bits other
  | _, _ => false

def occursIn (part : List Char) : List Char → Bool
  | [] => part.isEmpty
  | char :: rest => part.isPrefixOf (char :: rest) || occursIn part rest

/-- A value satisfies a condition. -/
def StringMatcher.holds : StringMatcher → String → Bool
  | .exact value, text => text == value
  | .startsWith value, text => value.toList.isPrefixOf text.toList
  | .contains value, text => occursIn value.toList text.toList

/-- A header of the request satisfies a condition. A header that is absent
satisfies none. -/
def HeaderMatcher.holds (matcher : HeaderMatcher) (request : Request) : Bool :=
  match request.header? matcher.name with
  | some text => matcher.value.holds text
  | none => false

namespace Principal

mutual

/-- A principal matches a request. -/
def holds (request : Request) : Principal → Bool
  | .address matcher range => range.contains (request.address matcher)
  | .all ids => holdsAll request ids
  | .any ids => holdsAny request ids
  | .not id => !holds request id
  | .header matcher => matcher.holds request

def holdsAll (request : Request) : List Principal → Bool
  | [] => true
  | id :: ids => holds request id && holdsAll request ids

def holdsAny (request : Request) : List Principal → Bool
  | [] => false
  | id :: ids => holds request id || holdsAny request ids

end

end Principal

/-- A policy applies to a request if it grants anything and one of its principals
matches. -/
def Policy.applies (policy : Policy) (request : Request) : Bool :=
  policy.permissions.any (fun (.any value) => value) &&
    Principal.holdsAny request policy.principals

/-- A filter lets a request through. -/
def Filter.permits (filter : Filter) (request : Request) : Bool :=
  let applies := filter.config.rules.policies.values.any (·.applies request)
  match filter.config.rules.action with
  | .allow => applies
  | .deny => !applies

end GatewayAcl.Rbac
