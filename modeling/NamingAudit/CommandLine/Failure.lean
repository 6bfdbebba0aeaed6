import NamingAudit.CommandLine.Host
import NamingAudit.Evaluator
import NamingAudit.Json.Reader
import NamingAudit.Text.Wrapped

/-! Failures of a command, each with its causes from the nearest to the deepest. -/

namespace NamingAudit.CommandLine

structure Failure where
  message : String
  causes : List String
deriving DecidableEq, Repr

namespace Failure

def hang (margin text : String) : String :=
  String.ofList (('\n' :: margin.toList).intercalate (Text.splitOn '\n' text.toList))

def renderCauses : List String → String
  | [] => ""
  | [cause] => "\n\nCaused by:\n    " ++ hang "    " cause
  | causes =>
    "\n\nCaused by:" ++ String.join (causes.zipIdx.map fun (cause, number) =>
      "\n    " ++ number.repr ++ ": " ++ hang "       " cause)

def render (failure : Failure) : String :=
  "Error: " ++ failure.message ++ renderCauses failure.causes

def ofRegistry (error : RegistryError) : Failure :=
  { message :=
      error.code ++ "\n\n" ++ Text.fill 78 "  × " "  │ " error.message ++ "\n"
        ++ Text.fill 78 "  help: " "        " error.help ++ "\n"
    causes := [] }

def ofEvaluation (error : EvaluationError) : Failure :=
  let deepest :=
    match error with
    | .glob pattern => [pattern.message]
    | .cancelled => []
  ⟨"Failed to build evaluator", error.message :: deepest⟩

def unknownPreset (name : String) : Failure :=
  ⟨"Unknown preset `" ++ name ++ "` (expected recommended, strict or minimal)", []⟩

def unreadableSettings (path : String) (fault : FileFault) : Failure :=
  ⟨"Failed to load config: " ++ path,
    ["Failed to read config file " ++ path ++ ": " ++ fault.message, fault.message]⟩

def malformedSettings (path : String) : Failure :=
  ⟨"Failed to load config: " ++ path, ["Failed to parse config: TOML parse error"]⟩

def unreadableInput (fault : FileFault) : Failure :=
  ⟨"Failed to read facts from stdin", [fault.message]⟩

def unreadableFacts (path : String) (fault : FileFault) : Failure :=
  ⟨"Invalid facts document: " ++ path,
    ["Failed to read facts from " ++ path ++ ": " ++ fault.message, fault.message]⟩

def reasonOf : Json.Problem → String
  | .endOfText => "unexpected end of the document"
  | .wrongType => "a value of the wrong type"
  | .malformed => "malformed JSON"

def malformedFacts (place : String) (problem : Json.Problem) : Failure :=
  ⟨"Invalid facts document" ++ place,
    ["Failed to parse facts document: " ++ reasonOf problem, reasonOf problem]⟩

def settingsPresent (path : String) : Failure :=
  ⟨"Configuration file already exists at " ++ path ++ ". Use --force to overwrite.", []⟩

end Failure

end NamingAudit.CommandLine
