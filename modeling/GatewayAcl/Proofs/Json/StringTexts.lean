import GatewayAcl.Json.Printer
import GatewayAcl.Json.Reader
import GatewayAcl.Proofs.Text.Utf8

/-!
# Texts of strings

A string is read from its text as it was.  Each of its characters is written as itself,
as a letter behind a backslash or as a code unit, and each of these is read as the
character, whatever follows it.
-/

namespace GatewayAcl.Json

open Text

theorem isByte_iff {char : Char} {byte : UInt8} :
    isByte char byte = true ↔ byte.toNat = char.toNat :=
  beq_iff_eq

theorem scanString_quote (rest : List UInt8) : scanString (0x22 :: rest) = ([], .ok rest) := by
  rw [scanString.eq_def]
  rfl

theorem scanString_escaped {letter value : UInt8} (noUnit : isByte 'u' letter = false)
    (stands : escapedByte? letter = some value) (rest : List UInt8) :
    scanString (0x5c :: letter :: rest) =
      (.escaped value :: (scanString rest).1, (scanString rest).2) := by
  have noQuote : isByte '"' 0x5c = false := by decide
  have backslash : isByte '\\' 0x5c = true := by decide
  rw [scanString.eq_def]
  simp [noQuote, backslash, noUnit, stands]

theorem scanString_unit {first second third fourth : UInt8} {value : Nat}
    (isUnit : codeUnit? first second third fourth = some value) (rest : List UInt8) :
    scanString (0x5c :: 0x75 :: first :: second :: third :: fourth :: rest) =
      (.unit value :: (scanString rest).1, (scanString rest).2) := by
  have noQuote : isByte '"' 0x5c = false := by decide
  have backslash : isByte '\\' 0x5c = true := by decide
  have marked : isByte 'u' 0x75 = true := by decide
  rw [scanString.eq_def]
  simp [noQuote, backslash, marked, isUnit]

/-- A byte that stands for itself inside a string. -/
structure IsPlain (byte : UInt8) : Prop where
  noQuote : byte.toNat ≠ 0x22
  noBackslash : byte.toNat ≠ 0x5c
  noControl : 0x20 ≤ byte.toNat

theorem scanString_plain {text : List UInt8} (plain : ∀ byte ∈ text, IsPlain byte)
    (rest : List UInt8) :
    scanString (text ++ rest) =
      (text.map .plain ++ (scanString rest).1, (scanString rest).2) := by
  induction text with
  | nil => rfl
  | cons byte text ih =>
      have ⟨⟨noQuote, noBackslash, noControl⟩, plainText⟩ := List.forall_mem_cons.mp plain
      have printable : ¬ byte < 0x20 := UInt8.not_lt.mpr noControl
      rw [List.cons_append, scanString.eq_def]
      simp [isByte, noQuote, noBackslash, printable, ih plainText]

theorem pieceBytes_plain (text : List UInt8) (ending : Except TextFault (List UInt8))
    (others : List StringPiece) :
    pieceBytes ending (text.map .plain ++ others) =
      (pieceBytes ending others).map (text ++ ·) := by
  induction text with
  | nil => cases found : pieceBytes ending others <;> simp [found, Except.map]
  | cons byte text ih =>
      rw [List.map_cons, List.cons_append, pieceBytes, ih]
      cases pieceBytes ending others <;> rfl

/-- A control character is no half of a pair, so it stands for itself. -/
theorem pieceBytes_unit {value : Nat} (below : value < 0x20)
    (ending : Except TextFault (List UInt8)) (others : List StringPiece) :
    pieceBytes ending (.unit value :: others) =
      (pieceBytes ending others).map (String.utf8EncodeChar (Char.ofNat value) ++ ·) := by
  have notLow : isLowSurrogate value = false := by
    simp [isLowSurrogate]
    omega
  have notHigh : isHighSurrogate value = false := by
    simp [isHighSurrogate]
    omega
  rw [pieceBytes.eq_def]
  simp only [notLow, notHigh, Bool.false_eq_true, if_false]

/-- A byte of a character that is written as it is. -/
theorem isPlain_of_mem_utf8EncodeChar {char : Char} (noQuote : char ≠ '"')
    (noBackslash : char ≠ '\\') (noControl : 0x20 ≤ char.toNat) :
    ∀ byte ∈ String.utf8EncodeChar char, IsPlain byte := by
  intro byte member
  by_cases beyond : 127 < char.toNat
  · have high := le_of_mem_utf8EncodeChar beyond byte member
    exact ⟨by omega, by omega, by omega⟩
  · have ascii := Nat.not_lt.mp beyond
    rw [utf8EncodeChar_of_le ascii, List.mem_singleton] at member
    have same : byte.toNat = char.toNat := by
      rw [member, UInt8.toNat_ofNat', Nat.mod_eq_of_lt (by omega)]
    refine ⟨?_, ?_, same ▸ noControl⟩
    · exact same ▸ fun isQuote => noQuote (Char.toNat_inj.mp isQuote)
    · exact same ▸ fun isBackslash => noBackslash (Char.toNat_inj.mp isBackslash)

/-- The digits of a control character are its code unit. -/
theorem exists_controlDigits {code : Nat} (control : code < 0x20) :
    ∃ high low, codeUnit? 0x30 0x30 high low = some code ∧
      bytes ['\\', 'u', '0', '0', if code < 0x10 then '0' else '1', Nat.digitChar (code % 16)] =
        [0x5c, 0x75, 0x30, 0x30, high, low] := by
  have digits : ∀ code < 0x20,
      codeUnit? 0x30 0x30 (if code < 0x10 then 0x30 else 0x31)
          (UInt8.ofNat (Nat.digitChar (code % 16)).toNat) = some code ∧
        bytes ['\\', 'u', '0', '0', if code < 0x10 then '0' else '1', Nat.digitChar (code % 16)] =
          [0x5c, 0x75, 0x30, 0x30, if code < 0x10 then 0x30 else 0x31,
            UInt8.ofNat (Nat.digitChar (code % 16)).toNat] := by
    decide
  exact ⟨_, _, digits code control⟩

/-- Inside a string bytes are read as a character. -/
def ReadsAs (text : List UInt8) (char : Char) : Prop :=
  ∃ pieces, (∀ rest, scanString (text ++ rest) =
      (pieces ++ (scanString rest).1, (scanString rest).2)) ∧
    ∀ ending others, pieceBytes ending (pieces ++ others) =
      (pieceBytes ending others).map (String.utf8EncodeChar char ++ ·)

theorem ReadsAs.letter {letter char : Char}
    (stands : escapedByte? (UInt8.ofNat letter.toNat) = some (UInt8.ofNat char.toNat))
    (noUnit : isByte 'u' (UInt8.ofNat letter.toNat) = false)
    (ascii : letter.toNat ≤ 127 ∧ char.toNat ≤ 127) : ReadsAs (bytes ['\\', letter]) char := by
  refine ⟨[.escaped (UInt8.ofNat char.toNat)], ?_, ?_⟩
  · intro rest
    have written : bytes ['\\', letter] = [0x5c, UInt8.ofNat letter.toNat] := by
      rw [bytes_cons, bytes_cons, utf8EncodeChar_of_le ascii.1]
      rfl
    rw [written]
    exact scanString_escaped noUnit stands rest
  · intro ending others
    rw [utf8EncodeChar_of_le ascii.2]
    rfl

/-- A written character is read as what it is. -/
theorem readsAs_escapedChar (char : Char) : ReadsAs (bytes (escapedChar char)) char := by
  unfold escapedChar
  split
  -- All cases but the last are characters with a letter of their own behind the backslash.
  any_goals exact .letter (by decide) (by decide) (by decide)
  · next noQuote noBackslash _ _ _ _ _ =>
      split
      · next control =>
          have ⟨high, low, isUnit, spelled⟩ := exists_controlDigits control
          refine ⟨[.unit char.toNat], ?_, ?_⟩
          · intro rest
            exact spelled ▸ scanString_unit isUnit rest
          · intro ending others
            rw [List.singleton_append, pieceBytes_unit control, Char.ofNat_toNat]
      · next noControl =>
          have plain := isPlain_of_mem_utf8EncodeChar noQuote noBackslash (Nat.not_lt.mp noControl)
          refine ⟨(String.utf8EncodeChar char).map .plain, fun rest => ?_, pieceBytes_plain _⟩
          rw [bytes_cons, bytes_nil, List.append_nil]
          exact scanString_plain plain rest

/-- A written text is read up to its closing quote. -/
theorem scanString_written (text : List Char) (rest : List UInt8) :
    ∃ pieces, scanString (bytes (text.flatMap escapedChar) ++ 0x22 :: rest) = (pieces, .ok rest) ∧
      ∀ ending, pieceBytes ending pieces = .ok (bytes text) := by
  induction text with
  | nil => exact ⟨[], scanString_quote rest, fun _ => rfl⟩
  | cons char text ih =>
      obtain ⟨others, scanned, stand⟩ := ih
      obtain ⟨pieces, scan, stands⟩ := readsAs_escapedChar char
      refine ⟨pieces ++ others, ?_, fun ending => ?_⟩
      · rw [List.flatMap_cons, bytes_append, List.append_assoc, scan, scanned]
      · rw [stands, stand]
        rfl

theorem stringText_written (text : String) {pieces : List StringPiece} (rest : List UInt8)
    (stand : ∀ ending, pieceBytes ending pieces = .ok (bytes text.toList)) :
    stringText pieces (.ok rest) = .ok text := by
  simp [stringText, stand, fromUTF8?_bytes, Bind.bind, Except.bind]

theorem readString_written (value : String) (rest : List UInt8) :
    readString (bytes (value.toList.flatMap escapedChar) ++ 0x22 :: rest) =
      ⟨.string value, some rest⟩ := by
  obtain ⟨pieces, scanned, stand⟩ := scanString_written value.toList rest
  simp only [readString, scanned, stringText_written value rest stand]

theorem bytes_printString (value : String) :
    bytes (printString value).toList =
      0x22 :: (bytes (value.toList.flatMap escapedChar) ++ [0x22]) := by
  have quote : String.utf8EncodeChar '"' = [0x22] := by decide
  simp [printString, quote]

end GatewayAcl.Json
