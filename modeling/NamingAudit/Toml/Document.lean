import NamingAudit.Toml.Scalar
import NamingAudit.Toml.Table

/-! Reading TOML documents: lines are read into statements, and the statements fill the root table
one after the other. -/

namespace NamingAudit.Toml
open NamingAudit.Text

/-- Lists and inline tables nest less deep than this, and no key has so many parts. -/
def depthLimit : Nat := 80

def skipGaps (chars : Chars) : Chars := chars.dropWhile isGap

def skipLines (inComment : Bool) : Chars → Chars
  | [] => []
  | c :: rest =>
    if c == '\n' then skipLines false rest
    else if inComment then (if isLineChar c then skipLines true rest else c :: rest)
    else if c == '#' then skipLines true rest
    else if isGap c then skipLines false rest
    else c :: rest

def isBareKeyChar (c : Char) : Bool := isAsciiAlphanumeric c || c == '_' || c == '-'

def readSimpleKey (chars : Chars) : Option (String × Chars) :=
  match chars with
  | '"' :: _ => readQuotedKey chars
  | '\'' :: _ => readQuotedKey chars
  | _ =>
    let key := chars.takeWhile isBareKeyChar
    if key.isEmpty then none else some (String.ofList key, chars.drop key.length)

def readKeyParts : Nat → Chars → Option (List String × Chars)
  | 0, _ => none
  | more + 1, chars => do
    let (key, rest) ← readSimpleKey (skipGaps chars)
    match skipGaps rest with
    | '.' :: rest =>
      let (keys, rest) ← readKeyParts more rest
      some (key :: keys, rest)
    | rest => some ([key], rest)

def readKey (chars : Chars) : Option ((List String × String) × Chars) := do
  let (keys, rest) ← readKeyParts (depthLimit - 1) chars
  let last ← keys.getLast?
  some ((keys.dropLast, last), rest)

mutual

/-- Reads one value. The fuel bounds the calls; three times the length of the text suffices. -/
def readValue (depth : Nat) : Nat → Chars → Option (Value × Chars)
  | 0, _ => none
  | fuel + 1, chars =>
    match chars with
    | '[' :: rest =>
      if depthLimit ≤ depth + 1 then none
      else do
        let (items, rest) ← readItems (depth + 1) fuel rest
        some (.array items, rest)
    | '\x7b' :: rest =>
      if depthLimit ≤ depth + 1 then none
      else
        match skipGaps rest with
        | '\x7d' :: rest => some (.table .inline [], rest)
        | rest => do
          let (entries, rest) ← readMembers (depth + 1) [] fuel rest
          some (.table .inline entries, rest)
    | _ => readScalar chars

def readItems (depth : Nat) : Nat → Chars → Option (List Value × Chars)
  | 0, _ => none
  | fuel + 1, chars =>
    match skipLines false chars with
    | ']' :: rest => some ([], rest)
    | start => do
      let (item, rest) ← readValue depth fuel start
      match skipLines false rest with
      | ']' :: rest => some ([item], rest)
      | ',' :: rest =>
        let (items, rest) ← readItems depth fuel rest
        some (item :: items, rest)
      | _ => none

def readMembers (depth : Nat) (entries : Entries) : Nat → Chars → Option (Entries × Chars)
  | 0, _ => none
  | fuel + 1, chars => do
    let ((path, key), rest) ← readKey chars
    let rest ← readMark '=' rest
    let (value, rest) ← readValue depth fuel (skipGaps rest)
    let (_, entries) ← assign path key value .inline entries
    match skipGaps rest with
    | '\x7d' :: rest => some (entries, rest)
    | ',' :: rest => readMembers depth entries fuel rest
    | _ => none

end

inductive Statement where
  | header (path : List String) (key : String)
  | arrayHeader (path : List String) (key : String)
  | assignment (path : List String) (key : String) (value : Value)

def readLineEnd (chars : Chars) : Option Chars :=
  let rest :=
    match skipGaps chars with
    | '#' :: rest => rest.dropWhile isLineChar
    | rest => rest
  match rest with
  | [] => some []
  | '\n' :: rest => some rest
  | _ => none

def readHeader (chars : Chars) : Option (Statement × Chars) :=
  match chars with
  | '[' :: rest => do
    let ((path, key), rest) ← readKey rest
    let rest ← readMark ']' (← readMark ']' rest)
    some (.arrayHeader path key, rest)
  | _ => do
    let ((path, key), rest) ← readKey chars
    let rest ← readMark ']' rest
    some (.header path key, rest)

def readAssignment (chars : Chars) : Option (Statement × Chars) := do
  let ((path, key), rest) ← readKey chars
  let rest ← readMark '=' rest
  let (value, rest) ← readValue 0 (3 * rest.length + 3) (skipGaps rest)
  some (.assignment path key value, rest)

def readStatements : Nat → Chars → Option (List Statement)
  | 0, _ => none
  | fuel + 1, chars =>
    match skipLines false chars with
    | [] => some []
    | start => do
      let (statement, rest) ←
        match start with
        | '[' :: rest => readHeader rest
        | _ => readAssignment start
      let statements ← readStatements fuel (← readLineEnd rest)
      some (statement :: statements)

structure Filling where
  root : Entries
  current : List String

def Filling.step (filling : Filling) (statement : Statement) : Option Filling := do
  match statement with
  | .header path key =>
    let (_, root) ← editAt false (defineTable key) path .header filling.root
    some ⟨root, path ++ [key]⟩
  | .arrayHeader path key =>
    let (_, root) ← editAt false (appendTable key) path .header filling.root
    some ⟨root, path ++ [key]⟩
  | .assignment path key value =>
    let (_, root) ← editAt false (assign path key value) filling.current .header filling.root
    some ⟨root, filling.current⟩

def unifyNewLines : Chars → Chars
  | [] => []
  | '\r' :: '\n' :: rest => '\n' :: unifyNewLines rest
  | c :: rest => c :: unifyNewLines rest

def dropByteOrderMark : Chars → Chars
  | '\ufeff' :: rest => rest
  | chars => chars

def read? (text : String) : Option Entries := do
  let chars := unifyNewLines (dropByteOrderMark text.toList)
  let statements ← readStatements (chars.length + 1) chars
  let filling ← statements.foldlM Filling.step ⟨[], []⟩
  some filling.root

end NamingAudit.Toml
