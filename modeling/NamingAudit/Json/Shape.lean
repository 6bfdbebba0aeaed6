import NamingAudit.Json.Value
import NamingAudit.Decimal.Shortest
import NamingAudit.Text.Quoted

/-! Converting JSON values into typed parts, and what a message says about a value that does not
fit. Members are looked up by key, so their order in the object does not matter. -/

namespace NamingAudit.Json

inductive ShapeFault where
  | missing (field : String)
  | wrongType (found : Value) (expected : String)
  | wrongValue (found : Value) (expected : String)
  | wrongLength (length : Nat) (expected : String)
  | unknownVariant (name : String) (known : List String)

/-- Reals in messages are positional from 1e-5 up to below 1e16, and their exponents are signed. -/
def messageLayout : Decimal.Layout := ⟨-5, 15, true, .toEven⟩

def Number.describe : Number → String
  | .natural value => "integer `" ++ value.repr ++ "`"
  | .negative value => "integer `-" ++ value.repr ++ "`"
  | .real value => "floating point `" ++ messageLayout.render value ++ "`"

def Value.describe : Value → String
  | .null => "null"
  | .bool value => "boolean `" ++ (if value then "true" else "false") ++ "`"
  | .number value => value.describe
  | .text value => "string " ++ Text.quoted value
  | .array _ => "sequence"
  | .object _ => "map"

namespace ShapeFault

def ticked (name : String) : String := "`" ++ name ++ "`"

def message : ShapeFault → String
  | missing field => "missing field " ++ ticked field
  | wrongType found expected => "invalid type: " ++ found.describe ++ ", expected " ++ expected
  | wrongValue found expected => "invalid value: " ++ found.describe ++ ", expected " ++ expected
  | wrongLength length expected => "invalid length " ++ length.repr ++ ", expected " ++ expected
  | unknownVariant name known =>
    "unknown variant " ++ ticked name ++ ", expected one of "
      ++ ", ".intercalate (known.map ticked)

end ShapeFault

abbrev Shaped := Except ShapeFault

namespace Value

def asText : Value → Shaped String
  | .text value => .ok value
  | other => .error (.wrongType other "a string")

def asBool : Value → Shaped Bool
  | .bool value => .ok value
  | other => .error (.wrongType other "a boolean")

def asSize : Value → Shaped Nat
  | .number (.natural value) => .ok value
  | .number (.negative value) => .error (.wrongValue (.number (.negative value)) "usize")
  | other => .error (.wrongType other "usize")

def asOptional (convert : Value → Shaped α) : Value → Shaped (Option α)
  | .null => .ok none
  | other => (convert other).map some

def asTextList : Value → Shaped (List String)
  | .array items => items.mapM asText
  | other => .error (.wrongType other "a sequence")

def asUnit : Value → Shaped Unit
  | .null => .ok ()
  | other => .error (.wrongType other "unit")

/-- An object without members will do for a null. -/
def asLaxUnit : Value → Shaped Unit
  | .object [] => .ok ()
  | other => other.asUnit

def asWord (known : List String) (ofWord? : String → Option α) (word : String) : Shaped α :=
  match ofWord? word with
  | some value => .ok value
  | none => .error (.unknownVariant word known)

/-- One of a closed set of words, as a text or as the only key of an object, whose content has to
be a unit. -/
def asVariant (unit : Value → Shaped Unit) (known : List String) (ofWord? : String → Option α) :
    Value → Shaped α
  | .text word => asWord known ofWord? word
  | .object [(word, content)] => do
    let value ← asWord known ofWord? word
    let _ ← unit content
    return value
  | .object members => .error (.wrongValue (.object members) "map with a single key")
  | other => .error (.wrongType other "string or map")

end Value

def field? (members : List (String × Value)) (key : String) (convert : Value → Shaped α) :
    Shaped (Option α) :=
  match members.lookup key with
  | none => .ok none
  | some value => (convert value).map some

def required (key : String) : Option α → Shaped α
  | some value => .ok value
  | none => .error (.missing key)

def element? (items : List Value) (position : Nat) (convert : Value → Shaped α) :
    Shaped (Option α) :=
  match items[position]? with
  | none => .ok none
  | some value => (convert value).map some

def requiredElement (whole : String) (items : List Value) (position : Nat)
    (convert : Value → Shaped α) : Shaped α := do
  match ← element? items position convert with
  | some value => return value
  | none => .error (.wrongLength position whole)

def noMoreThan (count : Nat) (items : List Value) : Shaped Unit :=
  if count < items.length then .error (.wrongLength items.length "fewer elements in array")
  else .ok ()

end NamingAudit.Json
