import GatewayAcl.Json.Basic
import GatewayAcl.Json.TextFault

/-!
# Documents

A document is JSON as it is met on the way from its front to its end: members
stand in their order of occurrence, a repeated name occurs repeatedly, and a
fault of the text stands where reading comes upon it. So a decoder that walks
through a document in order reports whichever is met first, a value of the wrong
kind or a fault of the text.

Some faults are seen only by those who look. A string with a lone surrogate or a
number beyond the range of floats can be skipped but not read, and skipping
sometimes stumbles over the same fault under another name. And one who takes only
some kinds of value turns away from what begins like another kind before coming
upon the fault. A fault therefore says how the value begins, what it is to a
reader, and what, if anything, it is to one who skips it.
-/

namespace GatewayAcl

open Json (Number TextFault)

/-- How a value with a fault begins. -/
inductive Beginning where
  /-- With the first letter of null. -/
  | null
  /-- Like a truth value or a number. -/
  | scalar
  | array
  /-- Like a string or an object, or not like a value. -/
  | other
  deriving DecidableEq, Repr

/-- JSON in reading order. -/
inductive Document where
  | null
  | bool (value : Bool)
  | number (value : Number)
  | string (value : String)
  | array (items : List Document)
  | object (members : List (Except TextFault String × Document))
  /-- Reading stops here, and skipping does if it has a fault to report. -/
  | fault (beginning : Beginning) (read : TextFault) (skipped : Option TextFault)
  deriving Inhabited

namespace Json

mutual

/-- A value as a document, which has no faults. -/
def toDocument : Json → Document
  | .null => .null
  | .bool value => .bool value
  | .number value => .number value
  | .string value => .string value
  | .array items => .array (itemsToDocuments items)
  | .object members => .object (membersToDocuments members)

def itemsToDocuments : List Json → List Document
  | [] => []
  | item :: items => item.toDocument :: itemsToDocuments items

def membersToDocuments : List (String × Json) → List (Except TextFault String × Document)
  | [] => []
  | (name, value) :: members => (.ok name, value.toDocument) :: membersToDocuments members

end

end Json

namespace Document

mutual

/-- The first fault that skipping the document comes upon. -/
def skipFault : Document → Option TextFault
  | .array items => itemsSkipFault items
  | .object members => membersSkipFault members
  | .fault _ _ skipped => skipped
  | _ => none

def itemsSkipFault : List Document → Option TextFault
  | [] => none
  | item :: items =>
      match item.skipFault with
      | some found => some found
      | none => itemsSkipFault items

/-- The first fault that skipping the members comes upon. Names are not read. -/
def membersSkipFault : List (Except TextFault String × Document) → Option TextFault
  | [] => none
  | (_, value) :: members =>
      match value.skipFault with
      | some found => some found
      | none => membersSkipFault members

end

mutual

/-- The value of a document, or the first fault that reading it comes upon. The
last of several members with one name counts. -/
def toJson : Document → Except TextFault Json
  | .null => .ok .null
  | .bool value => .ok (.bool value)
  | .number value => .ok (.number value)
  | .string value => .ok (.string value)
  | .array items => (itemsToJson items).map .array
  | .object members => (membersToJson members).map .record
  | .fault _ read _ => .error read

def itemsToJson : List Document → Except TextFault (List Json)
  | [] => .ok []
  | item :: items => do
      let value ← item.toJson
      let values ← itemsToJson items
      .ok (value :: values)

/-- The names and values of the members of an object, in reading order. -/
def membersToJson :
    List (Except TextFault String × Document) → Except TextFault (List (String × Json))
  | [] => .ok []
  | (name, value) :: members => do
      let name ← name
      let value ← value.toJson
      let entries ← membersToJson members
      .ok ((name, value) :: entries)

end

end Document

end GatewayAcl
