import NamingAudit.Text.Printable

/-! Text between double quotes as it appears inside messages: quotes and backslashes are escaped,
and a character that would not show is written as its code point in hexadecimal. -/

namespace NamingAudit.Text

def hexDigits (code : Nat) : List Char := Nat.toDigits 16 code

def escapeForMessage (c : Char) : List Char :=
  match c with
  | '\x00' => ['\\', '0']
  | '\t' => ['\\', 't']
  | '\r' => ['\\', 'r']
  | '\n' => ['\\', 'n']
  | '"' => ['\\', '"']
  | '\\' => ['\\', '\\']
  | _ =>
    if extendsGrapheme c || !isPrintable c then
      ['\\', 'u', '\x7b'] ++ hexDigits c.toNat ++ ['\x7d']
    else [c]

def quoted (text : String) : String :=
  String.ofList (['"'] ++ text.toList.flatMap escapeForMessage ++ ['"'])

end NamingAudit.Text
