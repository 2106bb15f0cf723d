import GatewayAcl.Json.Basic
import GatewayAcl.Text.Numeral

/-!
# Pointers and patches

A pointer leads from a value to one of its parts by the names of members and the
positions of items. A patch replaces the parts that its pointers lead to.
-/

namespace GatewayAcl

open Json (Number)

/-- The way to a part of a value, from the outside in. -/
structure Pointer where
  steps : List String
  deriving DecidableEq, Repr

namespace Pointer

/-- A step in which the two characters with a meaning of their own are escaped. -/
def escapeStep (step : String) : List Char :=
  step.toList.flatMap fun char =>
    if char = '~' then ['~', '0'] else if char = '/' then ['~', '1'] else [char]

/-- The written form of a pointer: a slash in front of each step. -/
def print (pointer : Pointer) : String :=
  String.ofList (pointer.steps.flatMap fun step => '/' :: escapeStep step)

/-- The position that a step names: a decimal number without leading zeros. -/
def position? (step : String) : Option Nat :=
  match step.toList with
  | ['0'] => some 0
  | '0' :: _ => none
  | text =>
      match Text.digitRun 10 text with
      | (first :: digits, []) => some (Text.ofDigits 10 (first :: digits))
      | _ => none

end Pointer

namespace Json

/-- The part of a value that steps lead to. -/
def follow? : List String → Json → Option Json
  | [], json => some json
  | step :: steps, .object members => members.lookup step >>= follow? steps
  | step :: steps, .array items =>
      Pointer.position? step >>= (items[·]?) >>= follow? steps
  | _ :: _, _ => none

/-- Replaces the first member of a name by what a function makes of its value. -/
def updateMember? (name : String) (update : Json → Option Json) :
    List (String × Json) → Option (List (String × Json))
  | [] => none
  | (other, value) :: rest =>
      if name == other then (update value).map fun value => (other, value) :: rest
      else (updateMember? name update rest).map ((other, value) :: ·)

/-- Replaces the item at a position by what a function makes of it. -/
def updateItem? (update : Json → Option Json) : Nat → List Json → Option (List Json)
  | _, [] => none
  | 0, item :: rest => (update item).map (· :: rest)
  | position + 1, item :: rest => (updateItem? update position rest).map (item :: ·)

/-- The value with the part that steps lead to replaced. -/
def replace? (replacement : Json) : List String → Json → Option Json
  | [], _ => some replacement
  | step :: steps, .object members =>
      (updateMember? step (replace? replacement steps) members).map .object
  | step :: steps, .array items => do
      let position ← Pointer.position? step
      (updateItem? (replace? replacement steps) position items).map .array
  | _ :: _, _ => none

end Json

structure Replacement where
  path : Pointer
  value : Json

/-- A list of replacements, to be made one after the other. -/
structure Patch where
  replacements : List Replacement

namespace Patch

def encodeReplacement (replacement : Replacement) : Json :=
  .object [
    ("op", .string "replace"),
    ("path", .string replacement.path.print),
    ("value", replacement.value)]

def encode (patch : Patch) : Json :=
  .array (patch.replacements.map encodeReplacement)

/-- The value with the replacements made, if every pointer leads somewhere. -/
def applyTo? (patch : Patch) (json : Json) : Option Json :=
  patch.replacements.foldlM
    (fun json replacement => Json.replace? replacement.value replacement.path.steps json) json

end Patch

end GatewayAcl
