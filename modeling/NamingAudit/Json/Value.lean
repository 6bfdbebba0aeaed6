import NamingAudit.Decimal.Binary64
import NamingAudit.SortedMap

/-! JSON values. Integers are kept exactly where 64 bits hold them, other numbers are rounded. An
object is a list of members; after reading, each key occurs once and the keys ascend. -/

namespace NamingAudit.Json

inductive Number where
  | natural (value : Nat)
  /-- The integer `-value`, for a positive value. -/
  | negative (value : Nat)
  | real (value : Binary64)
deriving DecidableEq, Repr

inductive Value where
  | null
  | bool (value : Bool)
  | number (value : Number)
  | text (value : String)
  | array (items : List Value)
  | object (members : List (String × Value))

namespace Value

def member? (key : String) : Value → Option Value
  | object members => members.lookup key
  | _ => none

def text? : Value → Option String
  | text value => some value
  | _ => none

def natural? : Value → Option Nat
  | number (.natural value) => some value
  | _ => none

end Value

/-- The members by ascending key, the last of several with one key. -/
def objectOf (members : List (String × Value)) : Value :=
  .object (SortedMap.collect (fun _ new => new) members).entries

end NamingAudit.Json
