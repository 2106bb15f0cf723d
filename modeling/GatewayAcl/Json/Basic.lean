import GatewayAcl.Json.Binary64
import GatewayAcl.Members

/-!
# JSON values

A value keeps the distinction between integers and floating-point numbers. The
members of an object are listed in ascending byte order of their names, each
name once; `Json.Canonical` says so of a value and everything in it.
-/

namespace GatewayAcl.Json

/-- A JSON number. Integers and floats are different numbers even where they
are equal in size. -/
inductive Number where
  | integer (value : Int)
  | float (value : Binary64)
  deriving DecidableEq, Repr

end GatewayAcl.Json

namespace GatewayAcl

inductive Json where
  | null
  | bool (value : Bool)
  | number (value : Json.Number)
  | string (value : String)
  | array (items : List Json)
  | object (members : List (String × Json))
  deriving Inhabited, Repr

namespace Json

def ofInt (value : Int) : Json :=
  .number (.integer value)

def ofNat (value : Nat) : Json :=
  .number (.integer value)

/-- An object with the given members. -/
def record (members : List (String × Json)) : Json :=
  .object (Members.ofList members)

/-- A member that is present only with a value. -/
def optionalMember {α : Type} (name : String) (encode : α → Json) :
    Option α → List (String × Json)
  | none => []
  | some value => [(name, encode value)]

def member? (json : Json) (name : String) : Option Json :=
  match json with
  | .object members => members.lookup name
  | _ => none

def items? : Json → Option (List Json)
  | .array items => some items
  | _ => none

def string? : Json → Option String
  | .string value => some value
  | _ => none

/-- Every object in the value lists its members in ascending order. -/
inductive Canonical : Json → Prop where
  | null : Canonical .null
  | bool (value : Bool) : Canonical (.bool value)
  | number (value : Number) : Canonical (.number value)
  | string (value : String) : Canonical (.string value)
  | array (items : List Json) : (∀ item ∈ items, Canonical item) → Canonical (.array items)
  | object (members : List (String × Json)) :
      Members.Ascending members → (∀ entry ∈ members, Canonical entry.2) →
        Canonical (.object members)

end Json

end GatewayAcl
