import NamingAudit.Fact.Record
import NamingAudit.Json.Reader

/-! Facts read from one document. A document that cannot be read is fatal; a record that is
malformed or invalid is rejected on its own, under its position and, where it can be told, its
place, and never hides another record. -/

namespace NamingAudit.Fact
open NamingAudit.Json

inductive RecordError where
  | shape (fault : ShapeFault)
  | invalid (error : FactError)

def RecordError.message : RecordError → String
  | shape fault => "malformed fact record: " ++ fault.message
  | invalid error => error.message

structure Rejected where
  index : Nat
  location : Option Location
  error : RecordError

def Rejected.display (rejected : Rejected) : String :=
  let place :=
    match rejected.location with
    | some location => " at " ++ location.display
    | none => ""
  "fact #" ++ rejected.index.repr ++ place ++ ": " ++ rejected.error.message

structure Batch where
  facts : List Fact
  rejected : List Rejected

def locationOf? (value : Value) : Option Location :=
  match (value.member? "file").bind Value.text? with
  | none => none
  | some file =>
    let number (key : String) : Nat := ((value.member? key).bind Value.natural?).getD 0
    some ⟨⟨file⟩, number "line", number "column"⟩

def ofRecord (value : Value) : Except RecordError Fact := do
  let record ← (Record.decode value).mapError .shape
  record.toFact.mapError .invalid

namespace Batch

def empty : Batch := ⟨[], []⟩

def ofRecordsFrom (index : Nat) : List Value → Batch
  | [] => empty
  | value :: rest =>
    let others := ofRecordsFrom (index + 1) rest
    match ofRecord value with
    | .ok fact => ⟨fact :: others.facts, others.rejected⟩
    | .error error => ⟨others.facts, ⟨index, locationOf? value, error⟩ :: others.rejected⟩

def ofRecords (records : List Value) : Batch := ofRecordsFrom 0 records

end Batch

namespace Document

def readRecords (use : Use) (chars : List Char) : Except Problem (List Value × List Char) :=
  match skipBlanks chars with
  | [] => .error .endOfText
  | '[' :: rest => do readItems (← use.enter) true (fuelFor rest) rest
  | '{' :: _ => .error .wrongType
  | start =>
    match readScalar? true start with
    | some (.error problem) => .error problem
    | some (.ok _) => .error .wrongType
    | none => .error .malformed

def readPositional (use : Use) (chars : List Char) : Except Problem (List Value × List Char) := do
  match ← nextItem true chars with
  | none => return ([], (skipBlanks chars).drop 1)
  | some start =>
    let (records, rest) ← readRecords use start
    match skipBlanks rest with
    | [] => .error .endOfText
    | ']' :: rest => return (records, rest)
    | _ => .error .malformed

def readNamed (use : Use) (found : Option (List Value)) (isFirst : Bool) :
    Nat → List Char → Except Problem (List Value × List Char)
  | 0, _ => .error .malformed
  | fuel + 1, chars => do
    match ← nextKey isFirst chars with
    | none => return (found.getD [], (skipBlanks chars).drop 1)
    | some start =>
      let (key, rest) ← readString true start
      if key == "facts" then
        if found.isSome then .error .wrongType
        else
          let (records, rest) ← readRecords use (← readColon rest)
          readNamed use (some records) false fuel rest
      else
        let rest ← readColon rest
        let (_, rest) ← readValue .skip (fuelFor rest) rest
        readNamed use found false fuel rest

def readOpening (chars : List Char) : Except Problem (List Value × List Char) := do
  let use ← (Use.keep nestingLimit).enter
  match chars with
  | '[' :: rest => readPositional use rest
  | '{' :: rest => readNamed use none true (fuelFor rest) rest
  | start =>
    match readScalar? true start with
    | some (.error problem) => .error problem
    | some (.ok _) => .error .wrongType
    | none => .error .malformed

def read (text : String) : Except Problem (List Value) :=
  match skipBlanks text.toList with
  | [] => .error .endOfText
  | start => do
    let (records, rest) ← readOpening start
    let _ ← readEnd rest
    return records

end Document

def load (text : String) : Except Problem Batch := (Document.read text).map Batch.ofRecords

end NamingAudit.Fact
