import GatewayAcl.Json.Basic

/-!
# Compact JSON text

The text of a value without blanks. In strings the quote, the backslash and the
control characters are escaped, five of them by a letter, and nothing else is.
-/

namespace GatewayAcl.Json

def Number.print : Number → String
  | .integer value => toString value
  | .float value => value.print

/-- The spelling of one character inside a string. -/
def escapedChar (char : Char) : List Char :=
  match char with
  | '"' => ['\\', '"']
  | '\\' => ['\\', '\\']
  | '\n' => ['\\', 'n']
  | '\r' => ['\\', 'r']
  | '\t' => ['\\', 't']
  | '\x08' => ['\\', 'b']
  | '\x0c' => ['\\', 'f']
  | _ =>
      if char.toNat < 0x20 then
        let high := if char.toNat < 0x10 then '0' else '1'
        ['\\', 'u', '0', '0', high, Nat.digitChar (char.toNat % 16)]
      else [char]

def printString (text : String) : String :=
  String.ofList ('"' :: text.toList.flatMap escapedChar ++ ['"'])

mutual

def print : Json → String
  | .null => "null"
  | .bool true => "true"
  | .bool false => "false"
  | .number value => value.print
  | .string value => printString value
  | .array [] => "[]"
  | .array (item :: items) => "[" ++ item.print ++ printItems items ++ "]"
  | .object [] => "\x7b\x7d"
  | .object ((name, value) :: members) =>
      "\x7b" ++ printString name ++ ":" ++ value.print ++ printMembers members ++ "\x7d"

/-- The text of the items behind the first, with a comma in front of each. -/
def printItems : List Json → String
  | [] => ""
  | item :: items => "," ++ item.print ++ printItems items

/-- The text of the members behind the first, with a comma in front of each. -/
def printMembers : List (String × Json) → String
  | [] => ""
  | (name, value) :: members =>
      "," ++ printString name ++ ":" ++ value.print ++ printMembers members

end

end GatewayAcl.Json
