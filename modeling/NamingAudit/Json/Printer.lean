import NamingAudit.Json.Shape

/-! Writing JSON over several lines, two blanks for each level. Members keep their order. -/

namespace NamingAudit.Json

def hexPair (code : Nat) : List Char := Decimal.padLeft 2 (Nat.toDigits 16 code)

def escapeChar (c : Char) : List Char :=
  match c with
  | '"' => ['\\', '"']
  | '\\' => ['\\', '\\']
  | '\x08' => ['\\', 'b']
  | '\x0c' => ['\\', 'f']
  | '\n' => ['\\', 'n']
  | '\r' => ['\\', 'r']
  | '\t' => ['\\', 't']
  | _ => if c < ' ' then ['\\', 'u', '0', '0'] ++ hexPair c.toNat else [c]

def renderText (text : String) : String :=
  String.ofList ('"' :: (text.toList.flatMap escapeChar ++ ['"']))

def Number.render : Number → String
  | .natural value => value.repr
  | .negative value => "-" ++ value.repr
  | .real value => messageLayout.render value

def indent (level : Nat) : String := String.ofList (List.replicate (2 * level) ' ')

def block (level : Nat) (opening closing : String) (lines : List String) : String :=
  if lines.isEmpty then opening ++ closing
  else
    opening ++ "\n"
      ++ ",\n".intercalate (lines.map fun line => indent (level + 1) ++ line)
      ++ "\n" ++ indent level ++ closing

mutual

def Value.renderAt (level : Nat) : Value → String
  | .null => "null"
  | .bool value => if value then "true" else "false"
  | .number value => value.render
  | .text value => renderText value
  | .array items => block level "[" "]" (renderItems (level + 1) items)
  | .object members => block level "\x7b" "\x7d" (renderMembers (level + 1) members)

def renderItems (level : Nat) : List Value → List String
  | [] => []
  | item :: rest => item.renderAt level :: renderItems level rest

def renderMembers (level : Nat) : List (String × Value) → List String
  | [] => []
  | (key, value) :: rest =>
    (renderText key ++ ": " ++ value.renderAt level) :: renderMembers level rest

end

def Value.render (value : Value) : String := value.renderAt 0

end NamingAudit.Json
