import NamingAudit.Diagnostic

/-! The JSON form of diagnostics. Each structure is written as an object and may be read from an
object or from the list of its parts. A priority, a target or a suggestion that is absent stands for
zero, the declared name or none. -/

namespace NamingAudit
open NamingAudit.Json

def asPath : Value → Shaped SourcePath
  | .text text => .ok ⟨text⟩
  | other => .error (.wrongType other "path string")

namespace Location

def toJson (location : Location) : Value :=
  .object
    [("file", .text location.file.text), ("line", .number (.natural location.line)),
      ("column", .number (.natural location.column))]

def whole : String := "struct Location with 3 elements"

def ofJson : Value → Shaped Location
  | .object members => do
    let column ← field? members "column" Value.asSize
    let file ← field? members "file" asPath
    let line ← field? members "line" Value.asSize
    return ⟨← required "file" file, ← required "line" line, ← required "column" column⟩
  | .array items => do
    let file ← requiredElement whole items 0 asPath
    let line ← requiredElement whole items 1 Value.asSize
    let column ← requiredElement whole items 2 Value.asSize
    let _ ← noMoreThan 3 items
    return ⟨file, line, column⟩
  | other => .error (.wrongType other "struct Location")

end Location

namespace FixTarget

def ofJson : Value → Shaped FixTarget := Value.asVariant Value.asUnit (all.map tag) ofTag?

end FixTarget

namespace Severity

def ofJson : Value → Shaped Severity := Value.asVariant Value.asUnit (all.map name) ofName?

end Severity

namespace Replacement

def toJson (replacement : Replacement) : Value :=
  .object
    [("location", replacement.location.toJson), ("target", .text replacement.target.tag),
      ("new_text", .text replacement.newText)]

def whole : String := "struct Replacement with 3 elements"

def ofJson : Value → Shaped Replacement
  | .object members => do
    let location ← field? members "location" Location.ofJson
    let newText ← field? members "new_text" Value.asText
    let target ← field? members "target" FixTarget.ofJson
    let location ← required "location" location
    return ⟨location, target.getD .name, ← required "new_text" newText⟩
  | .array items => do
    let location ← requiredElement whole items 0 Location.ofJson
    let target ← element? items 1 FixTarget.ofJson
    let newText ← requiredElement whole items 2 Value.asText
    let _ ← noMoreThan 3 items
    return ⟨location, target.getD .name, newText⟩
  | other => .error (.wrongType other "struct Replacement")

end Replacement

namespace Suggestion

def toJson (suggestion : Suggestion) : Value :=
  let replacement := (suggestion.replacement.map Replacement.toJson).getD .null
  .object [("message", .text suggestion.message), ("replacement", replacement)]

def whole : String := "struct Suggestion with 2 elements"

def ofJson : Value → Shaped Suggestion
  | .object members => do
    let message ← field? members "message" Value.asText
    let replacement ← field? members "replacement" (Value.asOptional Replacement.ofJson)
    return ⟨← required "message" message, replacement.join⟩
  | .array items => do
    let message ← requiredElement whole items 0 Value.asText
    let replacement ← requiredElement whole items 1 (Value.asOptional Replacement.ofJson)
    let _ ← noMoreThan 2 items
    return ⟨message, replacement⟩
  | other => .error (.wrongType other "struct Suggestion")

end Suggestion

namespace Diagnostic

def toJson (diagnostic : Diagnostic) : Value :=
  let suggestion :=
    match diagnostic.suggestion with
    | some suggestion => [("suggestion", suggestion.toJson)]
    | none => []
  .object
    ([("rule_id", .text diagnostic.ruleId), ("code", .text diagnostic.code),
      ("severity", .text diagnostic.severity.name), ("location", diagnostic.location.toJson),
      ("message", .text diagnostic.message)] ++ suggestion ++
      [("priority", .number (.natural diagnostic.priority))])

def whole : String := "struct Diagnostic with 7 elements"

def ofJson : Value → Shaped Diagnostic
  | .object members => do
    let code ← field? members "code" Value.asText
    let location ← field? members "location" Location.ofJson
    let message ← field? members "message" Value.asText
    let priority ← field? members "priority" Value.asSize
    let ruleId ← field? members "rule_id" Value.asText
    let severity ← field? members "severity" Severity.ofJson
    let suggestion ← field? members "suggestion" (Value.asOptional Suggestion.ofJson)
    let ruleId ← required "rule_id" ruleId
    let code ← required "code" code
    let severity ← required "severity" severity
    let location ← required "location" location
    let message ← required "message" message
    return ⟨ruleId, code, severity, location, message, suggestion.join, priority.getD 0⟩
  | .array items => do
    let ruleId ← requiredElement whole items 0 Value.asText
    let code ← requiredElement whole items 1 Value.asText
    let severity ← requiredElement whole items 2 Severity.ofJson
    let location ← requiredElement whole items 3 Location.ofJson
    let message ← requiredElement whole items 4 Value.asText
    let suggestion ← element? items 5 (Value.asOptional Suggestion.ofJson)
    let priority ← element? items 6 Value.asSize
    let _ ← noMoreThan 7 items
    return ⟨ruleId, code, severity, location, message, suggestion.join, priority.getD 0⟩
  | other => .error (.wrongType other "struct Diagnostic")

end Diagnostic

end NamingAudit
