import GatewayAcl.Http.Target
import GatewayAcl.Lookup.Basic

/-!
# Targets of lookups

The path under which the API server serves an object. Names stand in a path as
they are, so a name can make the path invalid, add a query to it, or cut it off.
-/

namespace GatewayAcl

/-- Why no request can be made for an object. -/
inductive TargetError where
  | emptyName
  | tooLong
  | invalidCharacter
  deriving DecidableEq, Repr

namespace TargetError

/-- The wording of an error with its causes, from the outside in. -/
def causes : TargetError → List String
  | .emptyName =>
      ["Failed to build request: failed to validate request: A non-empty name is required",
        "failed to validate request: A non-empty name is required"]
  | .tooLong =>
      ["Failed to build request: failed to build request: uri too long",
        "failed to build request: uri too long", "uri too long"]
  | .invalidCharacter =>
      ["Failed to build request: failed to build request: invalid uri character",
        "failed to build request: invalid uri character", "invalid uri character"]

end TargetError

namespace Query

def name : Query → String
  | .extension _ name => name
  | .cluster name => name
  | .infrastructure _ name => name

/-- What is asked for, in words. -/
def subject : Query → String
  | .extension namespaceName name => "extension " ++ namespaceName ++ "/" ++ name
  | .cluster name => "cluster " ++ name
  | .infrastructure namespaceName name => "infrastructure " ++ namespaceName ++ "/" ++ name

/-- The path of the API that all of the objects belong to. -/
def apiPath : String := "/apis/extensions.gardener.cloud/v1alpha1"

/-- The path of an object. Clusters belong to no namespace. -/
def path : Query → String
  | .extension namespaceName name =>
      apiPath ++ "/namespaces/" ++ namespaceName ++ "/extensions/" ++ name
  | .cluster name => apiPath ++ "/clusters/" ++ name
  | .infrastructure namespaceName name =>
      apiPath ++ "/namespaces/" ++ namespaceName ++ "/infrastructures/" ++ name

def target (query : Query) : Except TargetError Http.Target :=
  if query.name = "" then .error .emptyName
  else if Http.targetLimit < query.path.utf8ByteSize then .error .tooLong
  else
    match Http.Target.ofResource? query.path.toList with
    | none => .error .invalidCharacter
    | some target => .ok target

end Query

end GatewayAcl
