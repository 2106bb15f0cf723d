import GatewayAcl.Json.Basic
import GatewayAcl.Json.TextFault
import GatewayAcl.Text.Quoted
import GatewayAcl.Time.Timestamp

/-!
# Decoding errors

Why a document does not decode: one constructor per cause, and one function that
words them.
-/

namespace GatewayAcl

open Json (Number TextFault)

/-- What was found where something else was expected. -/
inductive Found where
  | null
  | boolean (value : Bool)
  | number (value : Number)
  | text (value : String)
  | sequence
  | map
  /-- The bare name of a variant that has to carry a value. -/
  | bareVariant
  deriving DecidableEq, Repr

def Found.description : Found → String
  | .null => "null"
  | .boolean value => "boolean `" ++ (if value then "true" else "false") ++ "`"
  | .number (.integer value) => "integer `" ++ toString value ++ "`"
  | .number (.float value) => "floating point `" ++ value.print ++ "`"
  | .text value => "string " ++ Text.quote value
  | .sequence => "sequence"
  | .map => "map"
  | .bareVariant => "unit variant"

inductive DecodeError where
  | invalidType (found : Found) (expected : String)
  | invalidValue (found : Found) (expected : String)
  | invalidLength (given : Nat) (expected : String)
  /-- More items than the record has fields. -/
  | surplusItems (given : Nat)
  | missingField (name : String)
  | duplicateField (name : String)
  | unknownField (name : String) (known : List String)
  | unknownVariant (name : String) (known : List String)
  | malformedTimestamp (fault : TimestampFault)
  | malformedText (fault : TextFault)
  deriving DecidableEq, Repr

namespace DecodeError

/-- A name between backticks. -/
def ticked (name : String) : String :=
  "`" ++ name ++ "`"

def choice : List String → String
  | [name] => ticked name
  | [first, second] => ticked first ++ " or " ++ ticked second
  | names => "one of " ++ String.intercalate ", " (names.map ticked)

def message : DecodeError → String
  | .invalidType found expected =>
      "invalid type: " ++ found.description ++ ", expected " ++ expected
  | .invalidValue found expected =>
      "invalid value: " ++ found.description ++ ", expected " ++ expected
  | .invalidLength given expected =>
      "invalid length " ++ toString given ++ ", expected " ++ expected
  | .surplusItems given =>
      "invalid length " ++ toString given ++ ", expected fewer elements in array"
  | .missingField name => "missing field " ++ ticked name
  | .duplicateField name => "duplicate field " ++ ticked name
  | .unknownField name known =>
      "unknown field " ++ ticked name ++ ", expected " ++ choice known
  | .unknownVariant name known =>
      "unknown variant " ++ ticked name ++ ", expected " ++ choice known
  | .malformedTimestamp fault => fault.message
  | .malformedText fault => fault.message

/-- The error as it is met in a text. There nobody knows how many items are still
to come, so the first surplus one is an error of the text. -/
def inText : DecodeError → DecodeError
  | .surplusItems _ => .malformedText .trailingCharacters
  | error => error

end DecodeError

end GatewayAcl
