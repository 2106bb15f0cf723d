/-!
# Arguments

What a single argument of a command line is by its looks: the flag, an option that
takes a value, the separator, something that looks like an option but is none, or
plain text. The value of an option may be attached to it with an equals sign.
-/

namespace GatewayAcl.CommandLine

/-- The options that take a value. -/
inductive ValueOption where
  | allowedCidrs
  | maxAllowedCidrs
  | lookupTimeout
  deriving DecidableEq, Repr

/-- What takes part in a command line under a name. -/
inductive Switch where
  /-- Turns the service off. -/
  | disabled
  | option (option : ValueOption)
  deriving DecidableEq, Repr

/-- The switches under their names. -/
def switches : List (List Char × Switch) := [
  ("admission-controller-disabled".toList, .disabled),
  ("allowed-cidrs".toList, .option .allowedCidrs),
  ("max-allowed-cidrs".toList, .option .maxAllowedCidrs),
  ("lookup-timeout-ms".toList, .option .lookupTimeout)]

inductive Argument where
  | switch (meaning : Switch) (attached : Option (List Char))
  /-- Everything behind it is plain text. -/
  | separator
  | unknown
  | plain (text : List Char)
  deriving DecidableEq, Repr

/-- A text in front of the first equals sign, and what is behind it. -/
def splitAttached (text : List Char) : List Char × Option (List Char) :=
  match text.dropWhile (· != '=') with
  | [] => (text, none)
  | _ :: attached => (text.takeWhile (· != '='), some attached)

/-- What an argument is. A lone hyphen is plain text. -/
def Argument.ofChars : List Char → Argument
  | ['-', '-'] => .separator
  | '-' :: '-' :: text =>
      let (name, attached) := splitAttached text
      match switches.lookup name with
      | some meaning => .switch meaning attached
      | none => .unknown
  | '-' :: _ :: _ => .unknown
  | text => .plain text

end GatewayAcl.CommandLine
