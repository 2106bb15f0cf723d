import GatewayAcl.Text.Unprintable

/-!
# Quoted text

Error messages show the text they complain about between double quotes, so that
blanks and invisible characters can be told apart. A quote and a backslash are
preceded by a backslash, four control characters have a letter of their own, and
every other unprintable character is spelled by its code point in hexadecimal.
-/

namespace GatewayAcl.Text

/-- The spelling of one character inside quotes. -/
def quotedChar (char : Char) : List Char :=
  match char with
  | '"' => ['\\', '"']
  | '\\' => ['\\', '\\']
  | '\x00' => ['\\', '0']
  | '\t' => ['\\', 't']
  | '\r' => ['\\', 'r']
  | '\n' => ['\\', 'n']
  | _ =>
      if isUnprintable char then
        ['\\', 'u', '\x7b'] ++ Nat.toDigits 16 char.toNat ++ ['\x7d']
      else [char]

/-- Text between double quotes, with every character spelled by `quotedChar`. -/
def quote (text : String) : String :=
  String.ofList ('"' :: text.toList.flatMap quotedChar ++ ['"'])

end GatewayAcl.Text
