import GatewayAcl.Json.Document
import GatewayAcl.Json.Numeral

/-!
# Reading JSON text

The document that a sequence of bytes spells. Reading never fails: a fault
becomes a part of the document, and where it makes the rest of the text
unintelligible the document ends there. Arrays and objects may be nested 127
deep; a deeper one can be skipped but not read.
-/

namespace GatewayAcl.Json

/-- The bytes behind the blanks in front of a text. -/
def skipBlanks : List UInt8 → List UInt8
  | [] => []
  | byte :: rest =>
      if byte == 0x20 || byte == 0x0a || byte == 0x0d || byte == 0x09 then skipBlanks rest
      else byte :: rest

/-- A byte that is one of ASCII's characters. -/
def isByte (char : Char) (byte : UInt8) : Bool :=
  byte.toNat == char.toNat

/-- The value of a byte that is a decimal digit. -/
def decimalDigit? (byte : UInt8) : Option Nat :=
  if 0x30 ≤ byte && byte ≤ 0x39 then some (byte.toNat - 0x30) else none

/-- The value of a byte that is a hexadecimal digit in either case. -/
def hexDigit? (byte : UInt8) : Option Nat :=
  if 0x30 ≤ byte && byte ≤ 0x39 then some (byte.toNat - 0x30)
  else if 0x41 ≤ byte && byte ≤ 0x46 then some (byte.toNat - 0x41 + 10)
  else if 0x61 ≤ byte && byte ≤ 0x66 then some (byte.toNat - 0x61 + 10)
  else none

/-- A piece of a string between its quotes: a byte that stands for itself, the
byte that an escape letter stands for, a code unit of four digits, or one whose
digits cannot be read. -/
inductive StringPiece where
  | plain (byte : UInt8)
  | escaped (byte : UInt8)
  | unit (value : Nat)
  | brokenUnit

/-- The byte that an escape letter stands for. -/
def escapedByte? (letter : UInt8) : Option UInt8 :=
  if isByte '"' letter || isByte '\\' letter || isByte '/' letter then some letter
  else if isByte 'b' letter then some 0x08
  else if isByte 'f' letter then some 0x0c
  else if isByte 'n' letter then some 0x0a
  else if isByte 'r' letter then some 0x0d
  else if isByte 't' letter then some 0x09
  else none

def codeUnit? (first second third fourth : UInt8) : Option Nat := do
  let first ← hexDigit? first
  let second ← hexDigit? second
  let third ← hexDigit? third
  let fourth ← hexDigit? fourth
  some (((first * 16 + second) * 16 + third) * 16 + fourth)

/-- The pieces of a string up to its closing quote and the bytes behind it, or
the fault that ends it. -/
def scanString : List UInt8 → List StringPiece × Except TextFault (List UInt8)
  | [] => ([], .error .endInString)
  | byte :: rest =>
      if isByte '"' byte then ([], .ok rest)
      else if isByte '\\' byte then
        match rest with
        | [] => ([], .error .endInString)
        | letter :: rest =>
            if isByte 'u' letter then
              match rest with
              | first :: second :: third :: fourth :: rest =>
                  match codeUnit? first second third fourth with
                  | none => ([.brokenUnit], .error .invalidEscape)
                  | some value =>
                      let (pieces, ending) := scanString rest
                      (.unit value :: pieces, ending)
              | _ => ([.brokenUnit], .error .endInString)
            else
              match escapedByte? letter with
              | none => ([], .error .invalidEscape)
              | some value =>
                  let (pieces, ending) := scanString rest
                  (.escaped value :: pieces, ending)
      else if byte < 0x20 then ([], .error .controlCharacter)
      else
        let (pieces, ending) := scanString rest
        (.plain byte :: pieces, ending)

/-- A code unit that opens a pair of surrogates. -/
def isHighSurrogate (value : Nat) : Bool :=
  0xd800 ≤ value && value ≤ 0xdbff

/-- A code unit that closes a pair of surrogates. -/
def isLowSurrogate (value : Nat) : Bool :=
  0xdc00 ≤ value && value ≤ 0xdfff

/-- The bytes of a string's pieces. Code units above the basic plane come in
pairs, the second directly behind the first. Where the text ends or a code unit is
broken, the fault is that of the string. -/
def pieceBytes (ending : Except TextFault (List UInt8)) :
    List StringPiece → Except TextFault (List UInt8)
  | [] => .ok []
  | .plain byte :: pieces => (pieceBytes ending pieces).map (byte :: ·)
  | .escaped byte :: pieces => (pieceBytes ending pieces).map (byte :: ·)
  | .brokenUnit :: pieces => pieceBytes ending pieces
  | .unit value :: pieces =>
      if isLowSurrogate value then .error .loneSurrogate
      else if isHighSurrogate value then
        match pieces with
        | .unit low :: pieces =>
            if isLowSurrogate low then
              let point := 0x10000 + (value - 0xd800) * 0x400 + (low - 0xdc00)
              (pieceBytes ending pieces).map (String.utf8EncodeChar (Char.ofNat point) ++ ·)
            else .error .loneSurrogate
        | .brokenUnit :: pieces => pieceBytes ending pieces
        | [] =>
            match ending with
            | .error .endInString => .ok []
            | _ => .error .endOfHexEscape
        | _ => .error .endOfHexEscape
      else (pieceBytes ending pieces).map (String.utf8EncodeChar (Char.ofNat value) ++ ·)

/-- The text of a string that was scanned to its end or to a fault. The bytes
have to be UTF-8 once the closing quote is reached. -/
def stringText (pieces : List StringPiece) (ending : Except TextFault (List UInt8)) :
    Except TextFault String := do
  let bytes ← pieceBytes ending pieces
  let _ ← ending
  match String.fromUTF8? ⟨bytes.toArray⟩ with
  | some text => .ok text
  | none => .error .invalidCodePoint

/-- The digits in front of a text, and what follows them. -/
def digitsInFront : List UInt8 → List Nat × List UInt8
  | [] => ([], [])
  | byte :: rest =>
      match decimalDigit? byte with
      | none => ([], byte :: rest)
      | some digit =>
          let (digits, after) := digitsInFront rest
          (digit :: digits, after)

/-- A fault of a numeral: a missing digit at the end of the text is the end of
the text to a reader, and a malformed number to one who skips it. -/
def digitMissing (rest : List UInt8) : Document :=
  if rest.isEmpty then .fault .scalar .endInValue (some .invalidNumber)
  else .fault .scalar .invalidNumber (some .invalidNumber)

/-- The digits in front of a text, at least one. -/
def scanDigits (text : List UInt8) : Except Document (List Nat × List UInt8) :=
  match digitsInFront text with
  | ([], rest) => .error (digitMissing rest)
  | (digits, rest) => .ok (digits, rest)

/-- The sign of a power of ten, whether it is negative, and the text behind it. -/
def powerSign : List UInt8 → Bool × List UInt8
  | [] => (false, [])
  | sign :: rest =>
      if isByte '-' sign then (true, rest)
      else if isByte '+' sign then (false, rest)
      else (false, sign :: rest)

/-- The letter that announces a power of ten. -/
def isPowerMark (byte : UInt8) : Bool :=
  isByte 'e' byte || isByte 'E' byte

/-- The power of ten in front of a text, if one is announced. -/
def scanPower : List UInt8 → Except Document (Option (Bool × List Nat) × List UInt8)
  | [] => .ok (none, [])
  | mark :: behind =>
      if isPowerMark mark then do
        let (digits, rest) ← scanDigits (powerSign behind).2
        .ok (some ((powerSign behind).1, digits), rest)
      else .ok (none, mark :: behind)

/-- The digits behind a decimal point in front of a text, if there is one. -/
def scanFraction : List UInt8 → Except Document (Option (List Nat) × List UInt8)
  | [] => .ok (none, [])
  | point :: behind =>
      if isByte '.' point then do
        let (digits, rest) ← scanDigits behind
        .ok (some digits, rest)
      else .ok (none, point :: behind)

/-- There is a zero in front of other digits. -/
def hasLeadingZero : List Nat → Bool
  | 0 :: _ :: _ => true
  | _ => false

/-- A numeral behind its sign. -/
def scanMagnitude (negative : Bool) (text : List UInt8) :
    Except Document (Numeral × List UInt8) := do
  let (whole, rest) ← scanDigits text
  if hasLeadingZero whole then .error (.fault .scalar .invalidNumber (some .invalidNumber))
  else do
    let (fraction, rest) ← scanFraction rest
    let (power, rest) ← scanPower rest
    let plain := fraction.isNone && power.isNone
    .ok (⟨negative, whole, fraction.getD [], power, plain⟩, rest)

/-- A numeral with its sign. -/
def scanNumeral : List UInt8 → Except Document (Numeral × List UInt8)
  | [] => scanMagnitude false []
  | sign :: rest =>
      if isByte '-' sign then scanMagnitude true rest else scanMagnitude false (sign :: rest)

/-- What was read from the front of a text: a document and, unless it ends in a
fault, the bytes behind it. -/
structure Reading where
  document : Document
  rest : Option (List UInt8)

/-- A reading that ends in a fault, which is the same to a reader and to one who
skips it. -/
def Reading.broken (beginning : Beginning) (fault : TextFault) : Reading :=
  ⟨.fault beginning fault (some fault), none⟩

/-- A number in front of a text. -/
def readNumber (text : List UInt8) : Reading :=
  match scanNumeral text with
  | .error document => ⟨document, none⟩
  | .ok (numeral, rest) =>
      match numeral.number with
      | .ok value => ⟨.number value, some rest⟩
      | .error fault => ⟨.fault .scalar fault none, some rest⟩

/-- A string behind its opening quote. -/
def readString (text : List UInt8) : Reading :=
  let (pieces, ending) := scanString text
  match stringText pieces ending, ending with
  | .ok value, .ok rest => ⟨.string value, some rest⟩
  | .error read, .ok rest => ⟨.fault .other read none, some rest⟩
  | .error read, .error skipped => ⟨.fault .other read (some skipped), none⟩
  | .ok _, .error skipped => .broken .other skipped

/-- The rest of a word whose first letter has been seen. -/
def readWord (beginning : Beginning) (document : Document) : List Char → List UInt8 → Reading
  | [], rest => ⟨document, some rest⟩
  | _ :: _, [] => .broken beginning .endInValue
  | char :: chars, byte :: rest =>
      if isByte char byte then readWord beginning document chars rest
      else .broken beginning .expectedIdentifier

/-- The items of an array or the members of an object, and the bytes behind the
closing bracket unless there is a fault. -/
abbrev ListReading (α : Type) := List α × Option (List UInt8)

abbrev DocumentMember := Except TextFault String × Document

/-- A list of members that ends in a fault. -/
def brokenMembers (read skipped : TextFault) : ListReading DocumentMember :=
  ([(.error read, .fault .other read (some skipped))], none)

/-- A list of items that ends in a fault. -/
def brokenItems (read skipped : TextFault) : ListReading Document :=
  ([.fault .other read (some skipped)], none)

/-- An array or an object that is nested too deep to be read. -/
def tooDeep (beginning : Beginning) (document : Document) (rest : Option (List UInt8)) : Reading :=
  ⟨.fault beginning .tooDeep document.skipFault, rest⟩

mutual

/-- A value in front of a text. The fuel bounds the number of steps, the depth
that of the arrays and objects that may be opened. -/
def readValue : (fuel depth : Nat) → List UInt8 → Reading
  | 0, _, _ => .broken .other .endInValue
  | fuel + 1, depth, text =>
      match skipBlanks text with
      | [] => .broken .other .endInValue
      | byte :: rest =>
          if isByte 'n' byte then readWord .null .null "ull".toList rest
          else if isByte 't' byte then readWord .scalar (.bool true) "rue".toList rest
          else if isByte 'f' byte then readWord .scalar (.bool false) "alse".toList rest
          else if isByte '"' byte then readString rest
          else if isByte '-' byte || (decimalDigit? byte).isSome then readNumber (byte :: rest)
          else if isByte '[' byte then
            let (items, after) := readItems fuel (depth - 1) true rest
            if depth = 0 then tooDeep .array (.array items) after else ⟨.array items, after⟩
          else if isByte '\x7b' byte then
            let (members, after) := readMembers fuel (depth - 1) true rest
            if depth = 0 then tooDeep .other (.object members) after else ⟨.object members, after⟩
          else .broken .other .expectedValue

/-- The items of an array behind its opening bracket or behind an item. -/
def readItems : (fuel depth : Nat) → (first : Bool) → List UInt8 → ListReading Document
  | 0, _, _, _ => brokenItems .endInList .endInList
  | fuel + 1, depth, first, text =>
      match skipBlanks text with
      | [] => brokenItems .endInList .endInList
      | byte :: rest =>
          if isByte ']' byte then ([], some rest)
          else if first then readItem fuel depth (byte :: rest)
          else if isByte ',' byte then
            match skipBlanks rest with
            | [] => brokenItems .endInValue .endInValue
            | next :: behind =>
                if isByte ']' next then brokenItems .trailingComma .expectedValue
                else readItem fuel depth (next :: behind)
          else brokenItems .expectedCommaOrBracket .expectedCommaOrBracket

/-- An item of an array and those behind it. -/
def readItem : (fuel depth : Nat) → List UInt8 → ListReading Document
  | 0, _, _ => brokenItems .endInValue .endInValue
  | fuel + 1, depth, text =>
      let item := readValue fuel depth text
      match item.rest with
      | none => ([item.document], none)
      | some rest =>
          let (items, after) := readItems fuel depth false rest
          (item.document :: items, after)

/-- The members of an object behind its opening brace or behind a member. -/
def readMembers : (fuel depth : Nat) → (first : Bool) → List UInt8 → ListReading DocumentMember
  | 0, _, _, _ => brokenMembers .endInObject .endInObject
  | fuel + 1, depth, first, text =>
      match skipBlanks text with
      | [] => brokenMembers .endInObject .endInObject
      | byte :: rest =>
          if isByte '\x7d' byte then ([], some rest)
          else if first then
            if isByte '"' byte then readMember fuel depth rest
            else brokenMembers .keyNotString .keyNotString
          else if isByte ',' byte then
            match skipBlanks rest with
            | [] => brokenMembers .endInValue .endInObject
            | next :: behind =>
                if isByte '"' next then readMember fuel depth behind
                else if isByte '\x7d' next then brokenMembers .trailingComma .keyNotString
                else brokenMembers .keyNotString .keyNotString
          else brokenMembers .expectedCommaOrBrace .expectedCommaOrBrace

/-- A member of an object, behind the opening quote of its name, and those
behind it. -/
def readMember : (fuel depth : Nat) → List UInt8 → ListReading DocumentMember
  | 0, _, _ => brokenMembers .endInObject .endInObject
  | fuel + 1, depth, text =>
      let (pieces, ending) := scanString text
      let name := stringText pieces ending
      match ending with
      | .error skipped =>
          match name with
          | .error read => brokenMembers read skipped
          | .ok _ => brokenMembers skipped skipped
      | .ok rest =>
          match skipBlanks rest with
          | [] => ([(name, .fault .other .endInObject (some .endInObject))], none)
          | byte :: behind =>
              if isByte ':' byte then
                let value := readValue fuel depth behind
                match value.rest with
                | none => ([(name, value.document)], none)
                | some rest =>
                    let (members, after) := readMembers fuel depth false rest
                    ((name, value.document) :: members, after)
              else ([(name, .fault .other .expectedColon (some .expectedColon))], none)

end

/-- The deepest nesting of arrays and objects that can be read. -/
def depthLimit : Nat := 127

/-- A document in front of a text. Each step but the last consumes a byte, and
at most three steps are taken for one byte. -/
def readDocument (text : List UInt8) : Reading :=
  readValue (3 * text.length + 3) depthLimit text

/-- The value that a text spells, with nothing but blanks around it. -/
def ofBytes (text : List UInt8) : Except TextFault Json := do
  let reading := readDocument text
  let value ← reading.document.toJson
  match skipBlanks (reading.rest.getD []) with
  | [] => .ok value
  | _ :: _ => .error .trailingCharacters

def ofText (text : String) : Except TextFault Json :=
  ofBytes text.toUTF8.toList

end GatewayAcl.Json
