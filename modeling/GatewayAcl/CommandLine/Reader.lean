import GatewayAcl.Admission.Settings
import GatewayAcl.CommandLine.Argument
import GatewayAcl.Net.NetworkList
import GatewayAcl.Power
import GatewayAcl.Text.Numeral

/-!
# Reading command lines

Arguments are read from the first to the last. A value that is attached to its
option is read at once. One that is an argument of its own is read when the next
option is met or the command line ends, so an argument that cannot be understood
at all is reported before such a value.
-/

namespace GatewayAcl.CommandLine

open Admission Net

/-- What is wrong with a command line. -/
inductive UsageError where
  | unknownArgument
  /-- An option lacks its value. -/
  | missingValue
  /-- A value is not what its option takes. -/
  | malformedValue
  /-- The flag has a value. -/
  | unexpectedValue
  | repeated
  deriving DecidableEq, Repr

/-- What a command line asks for. -/
structure Arguments where
  disabled : Bool
  settings : Settings
  deriving DecidableEq, Repr

/-- What has been given so far. -/
structure Given where
  disabled : Bool := false
  allowedCidrs : Option (List Network) := none
  cidrLimit : Option Nat := none
  lookupTimeout : Option Nat := none

/-- An option whose value has not been read, with the value if it has been met. -/
structure Pending where
  option : ValueOption
  value : Option (List Char)

/-- A number as a value: of 64 bits, with an optional plus sign. -/
def readNumber (text : List Char) : Except UsageError Nat :=
  match Text.readWhole (Power.ofTwo 64) text with
  | some number => .ok number
  | none => .error .malformedValue

def readNetworks (text : List Char) : Except UsageError (List Network) :=
  match Network.parseList? (String.ofList text) with
  | some networks => .ok networks
  | none => .error .malformedValue

namespace Given

def has (given : Given) : ValueOption → Bool
  | .allowedCidrs => given.allowedCidrs.isSome
  | .maxAllowedCidrs => given.cidrLimit.isSome
  | .lookupTimeout => given.lookupTimeout.isSome

/-- Reads the value of an option, which must not have been given. -/
def enter (given : Given) (option : ValueOption) (text : List Char) : Except UsageError Given :=
  if given.has option then .error .repeated
  else
    match option with
    | .allowedCidrs =>
        (readNetworks text).map fun networks => { given with allowedCidrs := some networks }
    | .maxAllowedCidrs =>
        (readNumber text).map fun number => { given with cidrLimit := some number }
    | .lookupTimeout =>
        (readNumber text).map fun number => { given with lookupTimeout := some number }

/-- Reads the value that is still to be read, if any. -/
def settle (given : Given) : Option Pending → Except UsageError Given
  | none => .ok given
  | some ⟨_, none⟩ => .error .missingValue
  | some ⟨option, some text⟩ => given.enter option text

/-- Reads arguments one after the other. -/
def read : Given → Option Pending → List Argument → Except UsageError Given
  | given, pending, [] => given.settle pending
  | given, pending, .separator :: rest =>
      if rest.isEmpty then given.settle pending else .error .unknownArgument
  | _, _, .unknown :: _ => .error .unknownArgument
  | _, _, .switch .disabled (some _) :: _ => .error .unexpectedValue
  | given, pending, .switch .disabled none :: rest => do
      let given ← given.settle pending
      if given.disabled then .error .repeated
      else read { given with disabled := true } none rest
  | given, pending, .switch (.option option) (some text) :: rest => do
      let given ← given.settle pending
      let given ← given.enter option text
      read given none rest
  | given, pending, .switch (.option option) none :: rest => do
      let given ← given.settle pending
      read given (some ⟨option, none⟩) rest
  | given, some ⟨option, none⟩, .plain text :: rest =>
      read given (some ⟨option, some text⟩) rest
  | _, _, .plain _ :: _ => .error .unknownArgument

/-- What is asked for by what has been given, with defaults for the rest. The
environment has a say only in what the command line leaves open. -/
def complete (given : Given) (environment : Option String) : Except UsageError Arguments := do
  let networks ←
    match given.allowedCidrs, environment with
    | some networks, _ => .ok networks
    | none, some text => readNetworks text.toList
    | none, none => .ok []
  .ok {
    disabled := given.disabled
    settings := {
      alwaysAllowed := networks
      cidrLimit := given.cidrLimit.getD defaultCidrLimit
      lookupTimeout := (given.lookupTimeout.map Duration.mk).getD defaultLookupTimeout } }

end Given

/-- The variable of the environment that lists networks. -/
def environmentVariable : String := "ACL_ALLOWED_CIDRS"

/-- What a command line asks for, together with the variable of the environment. -/
def parse (arguments : List String) (environment : Option String) :
    Except UsageError Arguments := do
  let given ← Given.read {} none (arguments.map fun argument => .ofChars argument.toList)
  given.complete environment

end GatewayAcl.CommandLine
