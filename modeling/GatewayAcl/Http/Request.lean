import GatewayAcl.Http.Target

/-!
# HTTP requests

A request has a method, a target and a body. Its first line is read before anything
else, and a server answers a line that it cannot read by a status alone.
-/

namespace GatewayAcl.Http

/-- An HTTP request. There is no body if the connection ended before all of it had
arrived. -/
structure Request where
  method : String
  target : Target
  body : Option (List UInt8)

/-- What is wrong with the first line of a request. -/
inductive LineFault where
  | malformed
  | targetTooLong
  deriving DecidableEq, Repr

/-- The status that a fault is answered with. -/
def LineFault.status : LineFault → Nat
  | .malformed => 400
  | .targetTooLong => 414

def isMethodChar (char : Char) : Bool :=
  isAlphanumeric char || "!#$%&'*+-.^_|~".toList.contains char || char.toNat == 0x60

/-- A character that may stand in a line between the blanks that divide it. -/
def isLineChar (char : Char) : Bool :=
  0x21 ≤ char.toNat && char.toNat != 0x7f

/-- Whether a text is one or more characters of a class. -/
def isWordOf (isMember : Char → Bool) (text : String) : Bool :=
  !text.isEmpty && text.toList.all isMember

/-- Reads a request with the method and the target of its first line. -/
def Request.ofLine (method target : String) (body : Option (List UInt8)) :
    Except LineFault Request :=
  if !isWordOf isMethodChar method || !isWordOf isLineChar target then .error .malformed
  else if targetLimit < target.utf8ByteSize then .error .targetTooLong
  else
    match Target.parse? target.toList with
    | none => .error .malformed
    | some target => .ok ⟨method, target, body⟩

end GatewayAcl.Http
