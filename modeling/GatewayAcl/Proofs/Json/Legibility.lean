import GatewayAcl.Proofs.Json.Canonical
import GatewayAcl.Proofs.Json.NumberTexts

/-!
# Legible values

A value whose text can be read is read from it as it was.  This holds of every value in
order that is nested no deeper than reading allows, if its numbers are read from their own
texts.
-/

namespace GatewayAcl.Json

open Text

/-! ## Values -/

/-- A value in order, nested no deeper than a depth, whose numbers are all read from their
own texts. -/
inductive Legible : (depth : Nat) → Json → Prop where
  | null {depth : Nat} : Legible depth .null
  | bool {depth : Nat} (value : Bool) : Legible depth (.bool value)
  | number {depth : Nat} {value : Number} : value.Legible → Legible depth (.number value)
  | string {depth : Nat} (value : String) : Legible depth (.string value)
  | array {depth : Nat} {items : List Json} :
      (∀ item ∈ items, Legible depth item) → Legible (depth + 1) (.array items)
  | object {depth : Nat} {members : List (String × Json)} : Members.Ascending members →
      (∀ entry ∈ members, Legible depth entry.2) → Legible (depth + 1) (.object members)

theorem Legible.canonical {depth : Nat} {json : Json} (legible : Legible depth json) :
    json.Canonical := by
  induction legible with
  | null => exact .null
  | bool value => exact .bool value
  | number _ => exact .number _
  | string value => exact .string value
  | array _ each => exact .array _ each
  | object ascending _ each => exact .object _ ascending each

theorem Legible.ofNat {depth number : Nat} (below : number < Power.ofTwo 64) :
    Legible depth (.ofNat number) := by
  refine .number (legible_integer ?_ (Int.ofNat_lt.mpr below))
  exact Int.le_trans (Int.neg_nonpos_of_nonneg (Int.natCast_nonneg _)) (Int.natCast_nonneg number)

/-- Members in any order make a legible object. -/
theorem Legible.record {depth : Nat} {members : List (String × Json)}
    (each : ∀ entry ∈ members, Legible depth entry.2) : Legible (depth + 1) (.record members) :=
  .object (Members.ascending_ofList members) fun entry member =>
    each entry (Members.mem_ofList member)

/-- The bytes of a value's text. -/
def written (json : Json) : List UInt8 :=
  bytes json.print.toList

theorem skipBlanks_of_lt {byte : UInt8} (printable : 0x20 < byte.toNat) (rest : List UInt8) :
    skipBlanks (byte :: rest) = byte :: rest := by
  have noBlank : (byte == 0x20 || byte == 0x0a || byte == 0x0d || byte == 0x09) = false := by
    simp only [Bool.or_eq_false_iff, beq_eq_false_iff_ne]
    refine ⟨⟨⟨?_, ?_⟩, ?_⟩, ?_⟩ <;>
    · rintro rfl
      exact absurd printable (by decide)
  rw [skipBlanks, noBlank]
  rfl

/-- A text begins with neither a blank nor a closing bracket. -/
def Opens (text : List UInt8) : Prop :=
  ∃ byte others, text = byte :: others ∧ 0x20 < byte.toNat ∧ byte.toNat ≠ 0x5d

/-- A value is read from its text, with enough fuel and in front of anything that ends a
numeral. -/
structure ReadsBack (depth : Nat) (json : Json) : Prop where
  opens : Opens json.written
  reads : ∀ fuel rest, 3 * json.written.length ≤ fuel → EndsNumeral rest →
    readValue fuel depth (json.written ++ rest) = ⟨json.toDocument, some rest⟩

/-- Where the text of a value begins with a byte, there is fuel for one step. -/
theorem ReadsBack.of_spelled {depth : Nat} {json : Json} {byte : UInt8} {others : List UInt8}
    (spelled : json.written = byte :: others) (printable : 0x20 < byte.toNat)
    (noBracket : byte.toNat ≠ 0x5d)
    (reads : ∀ fuel rest, EndsNumeral rest →
      readValue (fuel + 1) depth (byte :: (others ++ rest)) = ⟨json.toDocument, some rest⟩) :
    ReadsBack depth json := by
  refine ⟨⟨byte, others, spelled, printable, noBracket⟩, fun fuel rest enough ends => ?_⟩
  rw [spelled] at enough ⊢
  cases fuel with
  | zero => cases enough
  | succ fuel => exact reads fuel rest ends

theorem readsBack_null (depth : Nat) : ReadsBack depth .null := by
  have spelled : written .null = [0x6e, 0x75, 0x6c, 0x6c] := by decide
  refine .of_spelled spelled (by decide) (by decide) fun fuel rest _ => ?_
  rw [readValue]
  rfl

theorem readsBack_bool (depth : Nat) (value : Bool) : ReadsBack depth (.bool value) := by
  cases value with
  | true =>
      have spelled : written (.bool true) = [0x74, 0x72, 0x75, 0x65] := by decide
      refine .of_spelled spelled (by decide) (by decide) fun fuel rest _ => ?_
      rw [readValue]
      rfl
  | false =>
      have spelled : written (.bool false) = [0x66, 0x61, 0x6c, 0x73, 0x65] := by decide
      refine .of_spelled spelled (by decide) (by decide) fun fuel rest _ => ?_
      rw [readValue]
      rfl

theorem readValue_quote (fuel depth : Nat) (rest : List UInt8) :
    readValue (fuel + 1) depth (0x22 :: rest) = readString rest := by
  have noBlank : skipBlanks (0x22 :: rest) = 0x22 :: rest := skipBlanks_of_lt (by decide) rest
  rw [readValue, noBlank]
  rfl

theorem readValue_bracket (fuel depth : Nat) (rest : List UInt8) :
    readValue (fuel + 1) (depth + 1) (0x5b :: rest) =
      ⟨.array (readItems fuel depth true rest).1, (readItems fuel depth true rest).2⟩ := by
  have noBlank : skipBlanks (0x5b :: rest) = 0x5b :: rest := skipBlanks_of_lt (by decide) rest
  rw [readValue, noBlank]
  rfl

theorem readValue_brace (fuel depth : Nat) (rest : List UInt8) :
    readValue (fuel + 1) (depth + 1) (0x7b :: rest) =
      ⟨.object (readMembers fuel depth true rest).1, (readMembers fuel depth true rest).2⟩ := by
  have noBlank : skipBlanks (0x7b :: rest) = 0x7b :: rest := skipBlanks_of_lt (by decide) rest
  rw [readValue, noBlank]
  rfl

theorem readValue_number {byte : UInt8} (begins : BeginsNumber byte) (fuel depth : Nat)
    (rest : List UInt8) :
    readValue (fuel + 1) depth (byte :: rest) = readNumber (byte :: rest) := by
  have range := begins.range
  have noBlank : skipBlanks (byte :: rest) = byte :: rest := skipBlanks_of_lt (by omega) rest
  have other (char : Char) (distinct : byte.toNat ≠ char.toNat) : ¬ isByte char byte = true :=
    mt isByte_iff.mp distinct
  have isNumber : (isByte '-' byte || (decimalDigit? byte).isSome) = true :=
    (Bool.or_eq_true _ _).mpr begins
  rw [readValue, noBlank]
  simp only [other 'n' (by simp; omega), other 't' (by simp; omega), other 'f' (by simp; omega),
    other '"' (by simp; omega), isNumber, if_true]
  rfl

theorem readsBack_string (depth : Nat) (value : String) : ReadsBack depth (.string value) := by
  refine .of_spelled (bytes_printString value) (by decide) (by decide) fun fuel rest _ => ?_
  rw [List.append_assoc, readValue_quote]
  exact readString_written value rest

theorem readsBack_number (depth : Nat) {value : Number} (legible : value.Legible) :
    ReadsBack depth (.number value) := by
  have ⟨byte, others, spelled, begins⟩ := exists_begins_of_readNumber legible
  have range := begins.range
  refine .of_spelled spelled (by omega) (by omega) fun fuel rest ends => ?_
  have read := readNumber_append ends legible
  rw [spelled] at read
  rw [readValue_number begins]
  exact read

/-! ## Arrays -/

/-- The bytes of the items behind the first. -/
def writtenItems (items : List Json) : List UInt8 :=
  bytes (printItems items).toList

theorem written_array_cons (item : Json) (items : List Json) :
    written (.array (item :: items)) =
      0x5b :: (item.written ++ (writtenItems items ++ [0x5d])) := by
  have opening : String.utf8EncodeChar '[' = [0x5b] := by decide
  have closing : String.utf8EncodeChar ']' = [0x5d] := by decide
  simp [written, writtenItems, print, opening, closing]

theorem writtenItems_cons (item : Json) (items : List Json) :
    writtenItems (item :: items) = 0x2c :: (item.written ++ writtenItems items) := by
  have comma : String.utf8EncodeChar ',' = [0x2c] := by decide
  simp [written, writtenItems, printItems, comma]

theorem endsNumeral_items (items : List Json) (rest : List UInt8) :
    EndsNumeral (writtenItems items ++ 0x5d :: rest) := by
  cases items with
  | nil => exact endsNumeral_cons (by decide) (by decide) (by decide) rest
  | cons item items =>
      rw [writtenItems_cons]
      exact endsNumeral_cons (by decide) (by decide) (by decide) _

theorem readItems_close (fuel depth : Nat) (first : Bool) (rest : List UInt8) :
    readItems (fuel + 1) depth first (0x5d :: rest) = ([], some rest) := by
  have noBlank : skipBlanks (0x5d :: rest) = 0x5d :: rest := skipBlanks_of_lt (by decide) rest
  rw [readItems, noBlank]
  rfl

theorem readItems_first {text : List UInt8} (opens : Opens text) (fuel depth : Nat)
    (rest : List UInt8) :
    readItems (fuel + 1) depth true (text ++ rest) = readItem fuel depth (text ++ rest) := by
  obtain ⟨byte, others, rfl, printable, distinct⟩ := opens
  have noBracket : ¬ isByte ']' byte = true := mt isByte_iff.mp distinct
  rw [List.cons_append, readItems, skipBlanks_of_lt printable]
  simp only [noBracket, Bool.false_eq_true, if_false, if_true]

theorem readItems_comma {text : List UInt8} (opens : Opens text) (fuel depth : Nat)
    (rest : List UInt8) :
    readItems (fuel + 1) depth false (0x2c :: (text ++ rest)) =
      readItem fuel depth (text ++ rest) := by
  obtain ⟨byte, others, rfl, printable, distinct⟩ := opens
  have noBracket : ¬ isByte ']' byte = true := mt isByte_iff.mp distinct
  have noEnd : ¬ isByte ']' 0x2c = true := by decide
  have isComma : isByte ',' 0x2c = true := by decide
  rw [readItems, skipBlanks_of_lt (by decide), List.cons_append]
  simp only [noEnd, isComma, Bool.false_eq_true, if_false, if_true,
    skipBlanks_of_lt printable, noBracket]

theorem readItem_written {depth fuel : Nat} {item : Json} (readsBack : ReadsBack depth item)
    (enough : 3 * item.written.length ≤ fuel) {rest : List UInt8} (ends : EndsNumeral rest) :
    readItem (fuel + 1) depth (item.written ++ rest) =
      (item.toDocument :: (readItems fuel depth false rest).1,
        (readItems fuel depth false rest).2) := by
  rw [readItem, readsBack.reads fuel rest enough ends]

/-- The items behind the first are read up to the closing bracket. -/
theorem readItems_written {depth : Nat} {items : List Json}
    (each : ∀ item ∈ items, ReadsBack depth item) (rest : List UInt8) :
    ∀ {fuel : Nat}, 3 * (writtenItems items).length < fuel →
      readItems fuel depth false (writtenItems items ++ 0x5d :: rest) =
        (itemsToDocuments items, some rest) := by
  induction items with
  | nil =>
      intro fuel enough
      cases fuel with
      | zero => cases enough
      | succ fuel => exact readItems_close fuel depth false rest
  | cons item items ih =>
      intro fuel enough
      have ⟨readsBack, eachBehind⟩ := List.forall_mem_cons.mp each
      rw [writtenItems_cons] at enough ⊢
      simp only [List.length_cons, List.length_append] at enough
      obtain ⟨fuel, rfl⟩ := Nat.exists_eq_add_of_le' (show 2 ≤ fuel by omega)
      rw [List.cons_append, List.append_assoc, readItems_comma readsBack.opens,
        readItem_written readsBack (by omega) (endsNumeral_items items rest),
        ih eachBehind (by omega)]
      rfl

theorem readsBack_array {depth : Nat} {items : List Json}
    (each : ∀ item ∈ items, ReadsBack depth item) : ReadsBack (depth + 1) (.array items) := by
  cases items with
  | nil =>
      have spelled : written (.array []) = [0x5b, 0x5d] := by decide
      refine ⟨⟨_, _, spelled, by decide, by decide⟩, fun fuel rest enough _ => ?_⟩
      rw [spelled] at enough ⊢
      obtain ⟨fuel, rfl⟩ := Nat.exists_eq_add_of_le' (Nat.le_trans (by decide : 2 ≤ 6) enough)
      rw [List.cons_append, readValue_bracket, List.singleton_append, readItems_close]
      rfl
  | cons item items =>
      have ⟨readsBack, eachBehind⟩ := List.forall_mem_cons.mp each
      have spelled := written_array_cons item items
      refine ⟨⟨_, _, spelled, by decide, by decide⟩, fun fuel rest enough _ => ?_⟩
      rw [spelled] at enough ⊢
      simp only [List.length_cons, List.length_append] at enough
      obtain ⟨fuel, rfl⟩ := Nat.exists_eq_add_of_le' (show 3 ≤ fuel by omega)
      rw [List.cons_append, List.append_assoc, List.append_assoc, List.singleton_append,
        readValue_bracket, readItems_first readsBack.opens,
        readItem_written readsBack (by omega) (endsNumeral_items items rest),
        readItems_written eachBehind rest (by omega)]
      rfl

/-! ## Objects -/

/-- The bytes of a member: its name, a colon and its value. -/
def writtenMember (entry : String × Json) : List UInt8 :=
  bytes (entry.1.toList.flatMap escapedChar) ++ 0x22 :: 0x3a :: entry.2.written

/-- The bytes of the members behind the first. -/
def writtenMembers (members : List (String × Json)) : List UInt8 :=
  bytes (printMembers members).toList

theorem written_object_cons (entry : String × Json) (members : List (String × Json)) :
    written (.object (entry :: members)) =
      0x7b :: 0x22 :: (writtenMember entry ++ (writtenMembers members ++ [0x7d])) := by
  have opening : String.utf8EncodeChar '\x7b' = [0x7b] := by decide
  have closing : String.utf8EncodeChar '\x7d' = [0x7d] := by decide
  have colon : String.utf8EncodeChar ':' = [0x3a] := by decide
  simp [written, writtenMember, writtenMembers, print, bytes_printString, opening, closing, colon]

theorem writtenMembers_cons (entry : String × Json) (members : List (String × Json)) :
    writtenMembers (entry :: members) =
      0x2c :: 0x22 :: (writtenMember entry ++ writtenMembers members) := by
  have comma : String.utf8EncodeChar ',' = [0x2c] := by decide
  have colon : String.utf8EncodeChar ':' = [0x3a] := by decide
  simp [written, writtenMember, writtenMembers, printMembers, bytes_printString, comma, colon]

theorem endsNumeral_members (members : List (String × Json)) (rest : List UInt8) :
    EndsNumeral (writtenMembers members ++ 0x7d :: rest) := by
  cases members with
  | nil => exact endsNumeral_cons (by decide) (by decide) (by decide) rest
  | cons entry members =>
      rw [writtenMembers_cons]
      exact endsNumeral_cons (by decide) (by decide) (by decide) _

theorem readMembers_close (fuel depth : Nat) (first : Bool) (rest : List UInt8) :
    readMembers (fuel + 1) depth first (0x7d :: rest) = ([], some rest) := by
  have noBlank : skipBlanks (0x7d :: rest) = 0x7d :: rest := skipBlanks_of_lt (by decide) rest
  rw [readMembers, noBlank]
  rfl

theorem readMembers_first (fuel depth : Nat) (rest : List UInt8) :
    readMembers (fuel + 1) depth true (0x22 :: rest) = readMember fuel depth rest := by
  have noBlank : skipBlanks (0x22 :: rest) = 0x22 :: rest := skipBlanks_of_lt (by decide) rest
  rw [readMembers, noBlank]
  rfl

theorem readMembers_comma (fuel depth : Nat) (rest : List UInt8) :
    readMembers (fuel + 1) depth false (0x2c :: 0x22 :: rest) = readMember fuel depth rest := by
  have noBlank (byte : UInt8) (printable : 0x20 < byte.toNat) (rest : List UInt8) :
      skipBlanks (byte :: rest) = byte :: rest := skipBlanks_of_lt printable rest
  have isComma : isByte ',' 0x2c = true := by decide
  have isQuote : isByte '"' 0x22 = true := by decide
  have noEnd : ¬ isByte '\x7d' 0x2c = true := by decide
  rw [readMembers, noBlank 0x2c (by decide)]
  simp only [noEnd, isComma, isQuote, Bool.false_eq_true, if_false, if_true,
    noBlank 0x22 (by decide)]

theorem readMember_written {depth fuel : Nat} {entry : String × Json}
    (readsBack : ReadsBack depth entry.2) (enough : 3 * entry.2.written.length ≤ fuel)
    {rest : List UInt8} (ends : EndsNumeral rest) :
    readMember (fuel + 1) depth (writtenMember entry ++ rest) =
      ((.ok entry.1, entry.2.toDocument) :: (readMembers fuel depth false rest).1,
        (readMembers fuel depth false rest).2) := by
  have ⟨pieces, scanned, stand⟩ :=
    scanString_written entry.1.toList (0x3a :: (entry.2.written ++ rest))
  have noBlank : skipBlanks (0x3a :: (entry.2.written ++ rest)) =
      0x3a :: (entry.2.written ++ rest) := skipBlanks_of_lt (by decide) _
  have isColon : isByte ':' 0x3a = true := by decide
  rw [writtenMember, List.append_assoc, List.cons_append, List.cons_append, readMember]
  simp only [scanned, stringText_written _ _ stand, noBlank, isColon, if_true,
    readsBack.reads fuel rest enough ends]

/-- The members behind the first are read up to the closing brace. -/
theorem readMembers_written {depth : Nat} {members : List (String × Json)}
    (each : ∀ entry ∈ members, ReadsBack depth entry.2) (rest : List UInt8) :
    ∀ {fuel : Nat}, 3 * (writtenMembers members).length < fuel →
      readMembers fuel depth false (writtenMembers members ++ 0x7d :: rest) =
        (membersToDocuments members, some rest) := by
  induction members with
  | nil =>
      intro fuel enough
      cases fuel with
      | zero => cases enough
      | succ fuel => exact readMembers_close fuel depth false rest
  | cons entry members ih =>
      intro fuel enough
      have ⟨readsBack, eachBehind⟩ := List.forall_mem_cons.mp each
      rw [writtenMembers_cons] at enough ⊢
      simp only [List.length_cons, List.length_append, writtenMember] at enough
      obtain ⟨fuel, rfl⟩ := Nat.exists_eq_add_of_le' (show 2 ≤ fuel by omega)
      rw [List.cons_append, List.cons_append, List.append_assoc, readMembers_comma,
        readMember_written readsBack (by omega) (endsNumeral_members members rest),
        ih eachBehind (by omega)]
      rfl

theorem readsBack_object {depth : Nat} {members : List (String × Json)}
    (each : ∀ entry ∈ members, ReadsBack depth entry.2) :
    ReadsBack (depth + 1) (.object members) := by
  cases members with
  | nil =>
      have spelled : written (.object []) = [0x7b, 0x7d] := by decide
      refine ⟨⟨_, _, spelled, by decide, by decide⟩, fun fuel rest enough _ => ?_⟩
      rw [spelled] at enough ⊢
      obtain ⟨fuel, rfl⟩ := Nat.exists_eq_add_of_le' (Nat.le_trans (by decide : 2 ≤ 6) enough)
      rw [List.cons_append, readValue_brace, List.singleton_append, readMembers_close]
      rfl
  | cons entry members =>
      have ⟨readsBack, eachBehind⟩ := List.forall_mem_cons.mp each
      have spelled := written_object_cons entry members
      refine ⟨⟨_, _, spelled, by decide, by decide⟩, fun fuel rest enough _ => ?_⟩
      rw [spelled] at enough ⊢
      simp only [List.length_cons, List.length_append, writtenMember] at enough
      obtain ⟨fuel, rfl⟩ := Nat.exists_eq_add_of_le' (show 3 ≤ fuel by omega)
      rw [List.cons_append, List.cons_append, List.append_assoc, List.append_assoc,
        List.singleton_append, readValue_brace, readMembers_first,
        readMember_written readsBack (by omega) (endsNumeral_members members rest),
        readMembers_written eachBehind rest (by omega)]
      rfl

/-! ## Reading what was written -/

theorem Legible.readsBack {depth : Nat} {json : Json} (legible : Legible depth json) :
    ReadsBack depth json := by
  induction legible with
  | null => exact readsBack_null _
  | bool value => exact readsBack_bool _ value
  | number isLegible => exact readsBack_number _ isLegible
  | string value => exact readsBack_string _ value
  | array _ each => exact readsBack_array each
  | object _ _ each => exact readsBack_object each

theorem readDocument_print {json : Json} (legible : Legible depthLimit json) :
    readDocument json.print.toUTF8.toList = ⟨json.toDocument, some []⟩ := by
  have ends : EndsNumeral [] := ⟨by simp, by simp, by simp⟩
  have read := legible.readsBack.reads (3 * json.written.length + 3) [] (Nat.le_add_right _ _) ends
  rw [List.append_nil] at read
  rw [toList_toUTF8]
  exact read

/-- A legible value is read from its text as it was. -/
theorem ofText_print {json : Json} (legible : Legible depthLimit json) :
    ofText json.print = .ok json := by
  rw [ofText, ofBytes, readDocument_print legible]
  simp only [toJson_toDocument legible.canonical, except_bind_ok]
  rfl

theorem decoder_ofText_print {α : Type} (decoder : Decoder α) {json : Json}
    (legible : Legible depthLimit json) :
    decoder.ofText json.print = (decoder.ofJson json).mapError .inText := by
  rw [Decoder.ofText, Decoder.ofBytes, readDocument_print legible, Decoder.ofJson]
  cases decoder json.toDocument with
  | error error => rfl
  | ok value => rfl

end GatewayAcl.Json
