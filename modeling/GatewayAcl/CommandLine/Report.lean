import GatewayAcl.CommandLine.Reader
import GatewayAcl.Json.Basic

/-!
# Reporting command lines

What is shown of a command line: what it asks for, or what is wrong with it.
-/

namespace GatewayAcl.CommandLine

def UsageError.message : UsageError → String
  | .unknownArgument => "unexpected argument"
  | .missingValue => "a value is required"
  | .malformedValue => "invalid value"
  | .unexpectedValue => "unexpected value"
  | .repeated => "the argument cannot be used multiple times"

def Arguments.encode (arguments : Arguments) : Json :=
  .record [
    ("admission_controller_disabled", .bool arguments.disabled),
    ("allowed_cidrs",
      .array (arguments.settings.alwaysAllowed.map fun network => .string network.print)),
    ("max_allowed_cidrs", .ofNat arguments.settings.cidrLimit),
    ("lookup_timeout_ms", .ofNat arguments.settings.lookupTimeout.milliseconds)]

end GatewayAcl.CommandLine
