import GatewayAcl.Admission.Rejection
import GatewayAcl.Kube.SubmittedObject

/-!
# Admission requests

What the API server asks to have admitted: an operation on an object. Most of the
request is there for the record, and only the operation, the object and the kind
of the request have a bearing on the answer.
-/

namespace GatewayAcl.Admission

open Kube

/-- What is to be done to an object. -/
inductive Operation where
  | create
  | update
  | delete
  | connect
  deriving DecidableEq, Repr

/-- The operations under their written forms. -/
def Operation.known : List (String × Operation) :=
  [("CREATE", .create), ("UPDATE", .update), ("DELETE", .delete), ("CONNECT", .connect)]

/-- A kind of object in a version of a group of the API. -/
structure GroupVersionKind where
  group : String
  version : String
  kind : String
  deriving DecidableEq, Repr

namespace GroupVersionKind

def shape : Shape GroupVersionKind where
  name := "GroupVersionKind"
  strictness := .lenient
  blank := ⟨"", "", ""⟩
  fields := [
    .required "group" .string fun kind value => { kind with group := value },
    .required "version" .string fun kind value => { kind with version := value },
    .required "kind" .string fun kind value => { kind with kind := value }]

/-- The kind in words, from the general to the special. -/
def print (kind : GroupVersionKind) : String :=
  kind.group ++ "." ++ kind.version ++ "." ++ kind.kind

/-- Two texts differ at most in the case of ASCII letters. -/
def sameLetters (left right : String) : Bool :=
  left.toList.map Char.toLower == right.toList.map Char.toLower

/-- The kind has a name in a group, in any version. -/
def isNamed (kind : GroupVersionKind) (group name : String) : Bool :=
  sameLetters kind.group group && sameLetters kind.kind name

end GroupVersionKind

/-- A collection of objects in a version of a group of the API. -/
structure GroupVersionResource where
  group : String
  version : String
  resource : String
  apiVersion : String
  deriving DecidableEq, Repr

def GroupVersionResource.shape : Shape GroupVersionResource where
  name := "GroupVersionResource"
  strictness := .lenient
  blank := ⟨"", "", "", ""⟩
  fields := [
    .required "group" .string fun resource value => { resource with group := value },
    .required "version" .string fun resource value => { resource with version := value },
    .required "resource" .string fun resource value => { resource with resource := value },
    .defaulted "api_version" .string fun resource value => { resource with apiVersion := value }]

structure UserInfo where
  extra : Option (Dictionary (List String))
  groups : Option (List String)
  uid : Option String
  username : Option String

def UserInfo.shape : Shape UserInfo where
  name := "UserInfo"
  strictness := .keyedOnly
  blank := ⟨none, none, none, none⟩
  fields := [
    .optional "extra" (.dictionary (.list .string)) fun user value => { user with extra := value },
    .optional "groups" (.list .string) fun user value => { user with groups := value },
    .optional "uid" .string fun user value => { user with uid := value },
    .optional "username" .string fun user value => { user with username := value }]

structure Request where
  uid : String
  kind : GroupVersionKind
  resource : GroupVersionResource
  subResource : Option String
  requestKind : Option GroupVersionKind
  requestResource : Option GroupVersionResource
  requestSubResource : Option String
  name : String
  namespaceName : Option String
  operation : Operation
  userInfo : UserInfo
  object : Option SubmittedObject
  oldObject : Option SubmittedObject
  dryRun : Bool
  options : Option Json

namespace Request

/-- The request before anything about it is known, for an operation on an
object. -/
def blank (operation : Operation) (object : Option SubmittedObject) : Request where
  uid := ""
  kind := GroupVersionKind.shape.blank
  resource := GroupVersionResource.shape.blank
  subResource := none
  requestKind := none
  requestResource := none
  requestSubResource := none
  name := ""
  namespaceName := none
  operation := operation
  userInfo := UserInfo.shape.blank
  object := object
  oldObject := none
  dryRun := false
  options := none

def shape : Shape Request where
  name := "AdmissionRequest"
  strictness := .lenient
  blank := .blank .connect none
  fields := [
    .required "uid" .string fun request value => { request with uid := value },
    .required "kind" GroupVersionKind.shape.decoder fun request value =>
      { request with kind := value },
    .required "resource" GroupVersionResource.shape.decoder fun request value =>
      { request with resource := value },
    .optional "subResource" .string fun request value =>
      { request with subResource := value },
    .optional "requestKind" GroupVersionKind.shape.decoder fun request value =>
      { request with requestKind := value },
    .optional "requestResource" GroupVersionResource.shape.decoder fun request value =>
      { request with requestResource := value },
    .optional "requestSubResource" .string fun request value =>
      { request with requestSubResource := value },
    .defaulted "name" .string fun request value => { request with name := value },
    .optional "namespace" .string fun request value => { request with namespaceName := value },
    .required "operation" (.enumerationInText Operation.known) fun request value =>
      { request with operation := value },
    .required "userInfo" UserInfo.shape.decoder fun request value =>
      { request with userInfo := value },
    .keyedOptional "object" SubmittedObject.decoder fun request value =>
      { request with object := value },
    .keyedOptional "oldObject" SubmittedObject.decoder fun request value =>
      { request with oldObject := value },
    .defaulted "dryRun" .bool fun request value => { request with dryRun := value },
    .optional "options" .json fun request value => { request with options := value }]

/-- The submitted object and its spec, read as a value of some type. -/
def readSpec {α : Type} (request : Request) (decoder : Decoder α) :
    Except Rejection (SubmittedObject × α) :=
  match request.object with
  | none => .error .missingObject
  | some object =>
      match object.spec with
      | none => .error .missingSpec
      | some json => (decoder.ofJson json).mapError .malformedSpec |>.map fun spec => (object, spec)

end Request

end GatewayAcl.Admission
