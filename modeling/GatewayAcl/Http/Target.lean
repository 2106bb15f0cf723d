/-!
# Request targets

The text that says what an HTTP request is for. It is a path, perhaps with a query,
and a number sign cuts off what stands behind it. A server also meets whole addresses
with a scheme in front of a host, bare hosts, which have no path, and the asterisk,
which is a path of its own.
-/

namespace GatewayAcl.Http

/-- What a request is for. -/
structure Target where
  path : String
  query : Option String
  deriving DecidableEq, Repr

/-- The greatest length of a target in bytes. -/
def targetLimit : Nat := 65534

def isPathChar (char : Char) : Bool :=
  let point := char.toNat
  point == 0x21 || (0x24 ≤ point && point ≤ 0x3b) || point == 0x3d ||
    (0x40 ≤ point && point ≤ 0x5f) || (0x61 ≤ point && point ≤ 0x7a) || point == 0x7c ||
    point == 0x7e || 0x80 ≤ point || char == '"' || char == '\x7b' || char == '\x7d'

def isQueryChar (char : Char) : Bool :=
  let point := char.toNat
  point == 0x21 || (0x24 ≤ point && point ≤ 0x3b) || point == 0x3d ||
    (0x3f ≤ point && point ≤ 0x7e) || 0x80 ≤ point

/-- A letter or a digit of ASCII. -/
def isAlphanumeric (char : Char) : Bool :=
  ('0' ≤ char && char ≤ '9') || ('A' ≤ char && char ≤ 'Z') || ('a' ≤ char && char ≤ 'z')

def isSchemeChar (char : Char) : Bool :=
  isAlphanumeric char || ['+', '-', '.'].contains char

/-- A character that may stand anywhere in front of a path. -/
def isHostChar (char : Char) : Bool :=
  isAlphanumeric char || "!$&'()*+,-.;=_~".toList.contains char

/-- A character that ends the part of an address in front of the path. -/
def endsHost (char : Char) : Bool :=
  char == '/' || char == '?' || char == '#'

/-- What has been seen of a host: its colons, its opening and its closing bracket, and
whether it holds a percent sign. -/
structure HostScan where
  colons : Nat := 0
  opened : Bool := false
  closed : Bool := false
  escaped : Bool := false

/-- Sees one more character of a host. A closing bracket ends an address that may hold
colons, and an at sign ends the name of a user, which may hold percent signs too. -/
def HostScan.step? (scan : HostScan) (char : Char) : Option HostScan :=
  if char == ':' then
    if scan.colons < 8 then some { scan with colons := scan.colons + 1 } else none
  else if char == '[' then
    if scan.escaped || scan.opened then none else some { scan with opened := true }
  else if char == ']' then
    if scan.opened && !scan.closed then
      some { scan with colons := 0, closed := true, escaped := false }
    else none
  else if char == '@' then some { scan with colons := 0, escaped := false }
  else if char == '%' then some { scan with escaped := true }
  else if isHostChar char then some scan
  else none

/-- The text names a host, perhaps with a user in front and a port behind. -/
def isHost (text : List Char) : Bool :=
  match text.foldlM HostScan.step? {} with
  | none => false
  | some scan =>
      !text.isEmpty && scan.opened == scan.closed && scan.colons ≤ 1 && !scan.escaped &&
        text.getLast? != some '@'

/-- What follows a scheme and the signs that end it. A scheme has at most 64
characters. -/
def behindScheme? (text : List Char) : Option (List Char) :=
  match text.dropWhile isSchemeChar with
  | ':' :: '/' :: '/' :: rest =>
      if (text.takeWhile isSchemeChar).length ≤ 64 then some rest else none
  | _ => none

namespace Target

def print (target : Target) : String :=
  match target.query with
  | none => target.path
  | some query => target.path ++ "?" ++ query

/-- Reads a path and a query. The query begins with the first question mark, and a
fragment is cut off unread. -/
def ofResource? (text : List Char) : Option Target :=
  let resource := text.takeWhile (· != '#')
  let path := resource.takeWhile (· != '?')
  let query := (resource.dropWhile (· != '?')).tail?
  if path.all isPathChar && (query.getD []).all isQueryChar then
    some ⟨String.ofList path, query.map String.ofList⟩
  else none

/-- Reads a target of any kind. Behind a host the path may be left out, which is the
same as the path of the root. -/
def parse? (text : List Char) : Option Target :=
  match text with
  | '/' :: _ => ofResource? text
  | ['*'] => some ⟨"*", none⟩
  | _ =>
      match behindScheme? text with
      | none => if isHost text then some ⟨"", none⟩ else none
      | some rest =>
          if isHost (rest.takeWhile (!endsHost ·)) then
            (ofResource? (rest.dropWhile (!endsHost ·))).map fun target =>
              if target.path = "" then { target with path := "/" } else target
          else none

end Target

end GatewayAcl.Http
