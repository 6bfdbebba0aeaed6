import NamingAudit.DiagnosticForm
import NamingAudit.Proofs.MemberRevisions

/-! Diagnostics read back from their JSON form. What was written is found again, the path with its
spelling, and it is found from every object that says the same: with members that nobody knows, in another
order, and without those that say no more than their absence does. -/

namespace NamingAudit
open NamingAudit.Json

variable {members : List (String × Value)}

theorem FixTarget.ofJson_tag (target : FixTarget) : ofJson (.text target.tag) = .ok target := by
  cases target <;> rfl

theorem Severity.ofJson_name (severity : Severity) : ofJson (.text severity.name) = .ok severity := by
  cases severity <;> rfl

namespace Location

def form : Form := .record [("file", .plain), ("line", .plain), ("column", .plain)] []

theorem ofJson_toJson (location : Location) : ofJson location.toJson = .ok location := rfl

theorem respects_ofJson : Respects form ofJson := by
  intro before after revision
  obtain ⟨members, others, rfl, rfl⟩ := revision.objects
  have column := revision.field?_eq "column" rfl (respects_plain Value.asSize) (by decide)
  have file := revision.field?_eq "file" rfl (respects_plain asPath) (by decide)
  have line := revision.field?_eq "line" rfl (respects_plain Value.asSize) (by decide)
  rw [ofJson, ofJson, column, file, line]

end Location

namespace Replacement

def form : Form :=
  .record [("location", Location.form), ("target", .plain), ("new_text", .plain)]
    [("target", .text FixTarget.name.tag)]

theorem ofJson_object : ofJson (.object members) = do
    let location ← field? members "location" Location.ofJson
    let newText ← field? members "new_text" Value.asText
    let target ← (fun given => given.getD .name) <$> field? members "target" FixTarget.ofJson
    let location ← required "location" location
    return ⟨location, target, ← required "new_text" newText⟩ := by
  simp only [ofJson, bind_map_left]

theorem ofJson_toJson (replacement : Replacement) : ofJson replacement.toJson = .ok replacement := by
  rw [toJson, ofJson_object, field?_of_some "target" (.text replacement.target.tag),
    FixTarget.ofJson_tag]
  · rfl
  · rfl

theorem respects_ofJson : Respects form ofJson := by
  intro before after revision
  obtain ⟨members, others, rfl, rfl⟩ := revision.objects
  have location := revision.field?_eq "location" rfl Location.respects_ofJson (by decide)
  have newText := revision.field?_eq "new_text" rfl (respects_plain Value.asText) (by decide)
  have target := revision.map_field?_eq "target" rfl (respects_plain FixTarget.ofJson)
    (fun given => given.getD .name) fun value granted => by
      obtain rfl : value = .text FixTarget.name.tag := by simpa using granted
      rfl
  rw [ofJson_object, ofJson_object, location, newText, target]

end Replacement

namespace Suggestion

def form : Form :=
  .record [("message", .plain), ("replacement", Replacement.form)] [("replacement", .null)]

theorem ofJson_object : ofJson (.object members) = do
    let message ← field? members "message" Value.asText
    let replacement ← Option.join <$> field? members "replacement" (Value.asOptional Replacement.ofJson)
    return ⟨← required "message" message, replacement⟩ := by
  simp only [ofJson, bind_map_left]

theorem ofJson_toJson (suggestion : Suggestion) : ofJson suggestion.toJson = .ok suggestion := by
  obtain ⟨message, replacement⟩ := suggestion
  cases replacement with
  | none => rfl
  | some replacement =>
    have read : Value.asOptional Replacement.ofJson replacement.toJson = .ok (some replacement) :=
      congrArg (Except.map some) replacement.ofJson_toJson
    rw [toJson, ofJson_object, field?_of_some "replacement" replacement.toJson, read]
    · rfl
    · rfl

theorem respects_ofJson : Respects form ofJson := by
  intro before after revision
  obtain ⟨members, others, rfl, rfl⟩ := revision.objects
  have message := revision.field?_eq "message" rfl (respects_plain Value.asText) (by decide)
  have replacement := revision.map_field?_eq "replacement" rfl
    Replacement.respects_ofJson.asOptional Option.join fun value granted => by
      obtain rfl : value = .null := by simpa using granted
      rfl
  rw [ofJson_object, ofJson_object, message, replacement]

end Suggestion

namespace Diagnostic

def form : Form :=
  .record
    [("rule_id", .plain), ("code", .plain), ("severity", .plain), ("location", Location.form),
      ("message", .plain), ("suggestion", Suggestion.form), ("priority", .plain)]
    [("suggestion", .null), ("priority", .number (.natural 0))]

theorem ofJson_object : ofJson (.object members) = do
    let code ← field? members "code" Value.asText
    let location ← field? members "location" Location.ofJson
    let message ← field? members "message" Value.asText
    let priority ← (fun given => given.getD 0) <$> field? members "priority" Value.asSize
    let ruleId ← field? members "rule_id" Value.asText
    let severity ← field? members "severity" Severity.ofJson
    let suggestion ← Option.join <$> field? members "suggestion" (Value.asOptional Suggestion.ofJson)
    let ruleId ← required "rule_id" ruleId
    let code ← required "code" code
    let severity ← required "severity" severity
    let location ← required "location" location
    let message ← required "message" message
    return ⟨ruleId, code, severity, location, message, suggestion, priority⟩ := by
  simp only [ofJson, bind_map_left]

theorem ofJson_toJson (diagnostic : Diagnostic) : ofJson diagnostic.toJson = .ok diagnostic := by
  obtain ⟨ruleId, code, severity, location, message, suggestion, priority⟩ := diagnostic
  cases suggestion with
  | none =>
    rw [toJson, ofJson_object, field?_of_some "severity" (.text severity.name), severity.ofJson_name]
    · rfl
    · rfl
  | some suggestion =>
    have read : Value.asOptional Suggestion.ofJson suggestion.toJson = .ok (some suggestion) :=
      congrArg (Except.map some) suggestion.ofJson_toJson
    rw [toJson, ofJson_object, field?_of_some "severity" (.text severity.name),
      severity.ofJson_name, field?_of_some "suggestion" suggestion.toJson, read]
    · rfl
    · rfl
    · rfl

theorem respects_ofJson : Respects form ofJson := by
  intro before after revision
  obtain ⟨members, others, rfl, rfl⟩ := revision.objects
  have code := revision.field?_eq "code" rfl (respects_plain Value.asText) (by decide)
  have location := revision.field?_eq "location" rfl Location.respects_ofJson (by decide)
  have message := revision.field?_eq "message" rfl (respects_plain Value.asText) (by decide)
  have priority := revision.map_field?_eq "priority" rfl (respects_plain Value.asSize)
    (fun given => given.getD 0) fun value granted => by
      obtain rfl : value = .number (.natural 0) := by simpa using granted
      rfl
  have ruleId := revision.field?_eq "rule_id" rfl (respects_plain Value.asText) (by decide)
  have severity := revision.field?_eq "severity" rfl (respects_plain Severity.ofJson) (by decide)
  have suggestion := revision.map_field?_eq "suggestion" rfl
    Suggestion.respects_ofJson.asOptional Option.join fun value granted => by
      obtain rfl : value = .null := by simpa using granted
      rfl
  rw [ofJson_object, ofJson_object, code, location, message, priority, ruleId, severity, suggestion]

/-- A diagnostic is read back as it was written, its path in the same spelling. It is read as well from
every object that comes of the written one by any number of steps, at any depth and either way: a member put
in under a key that nobody knows, members put in another order, or one left out that is a suggestion or a
replacement of null, a priority of zero or the target of a name. -/
theorem ofJson_eq_of_revised (diagnostic : Diagnostic) :
    ofJson diagnostic.toJson = .ok diagnostic ∧
      ∀ value, Relation.EqvGen (Revision form) diagnostic.toJson value →
        ofJson value = .ok diagnostic := by
  refine ⟨diagnostic.ofJson_toJson, fun value same => ?_⟩
  rw [respects_ofJson.eq_of_eqvGen same, diagnostic.ofJson_toJson]

def misnamedColumn : Diagnostic :=
  ⟨"column-snake-case", "CL041", .error, ⟨⟨"database//schema.sql"⟩, 4, 3⟩, "`userID`",
    some ⟨"replace", some ⟨⟨⟨"database//schema.sql"⟩, 4, 3⟩, .name, "user_id"⟩⟩, 0⟩

def misnamedColumnWith (replacement : List (String × Value)) : Value :=
  .object
    [("tool", .null), ("rule_id", .text "column-snake-case"), ("code", .text "CL041"),
      ("severity", .text "error"), ("location", misnamedColumn.location.toJson),
      ("message", .text "`userID`"),
      ("suggestion", .object [("message", .text "replace"), ("replacement", .object replacement)])]

def misnamedColumnElsewhere : Value :=
  misnamedColumnWith
    [("location", misnamedColumn.location.toJson), ("new_text", .text "user_id"), ("safe", .null)]

theorem misnamedColumn_read_elsewhere :
    Relation.EqvGen (Revision form) misnamedColumn.toJson misnamedColumnElsewhere ∧
      ofJson misnamedColumnElsewhere = .ok misnamedColumn := by
  have inReplacement {before after : List (String × Value)}
      (revision : Revision Replacement.form (.object before) (.object after)) :
      Revision form (misnamedColumnWith before) (misnamedColumnWith after) :=
    .within [_, _, _, _, _, _] [] "suggestion" rfl (.within [_] [] "replacement" rfl revision)
  have same : Relation.EqvGen (Revision form) misnamedColumn.toJson misnamedColumnElsewhere := by
    refine .trans _ _ _ (.rel _ _ (.loses "priority" (.number (.natural 0)) (by simp) rfl)) ?_
    refine .trans _ _ _ (.rel _ _ (.gains [] _ "tool" .null rfl)) ?_
    refine .trans _ _ _ (.rel _ _ (inReplacement (.loses "target" _ (by simp) rfl))) ?_
    exact .rel _ _ (inReplacement (.gains [_, _] [] "safe" .null rfl))
  exact ⟨same, (ofJson_eq_of_revised misnamedColumn).2 _ same⟩

end Diagnostic

end NamingAudit
