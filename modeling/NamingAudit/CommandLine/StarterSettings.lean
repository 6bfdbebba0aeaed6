/-! The settings that a new project begins with. -/

namespace NamingAudit.CommandLine.StarterSettings

def fileName : String := "convention-lint.toml"

def lines : List String :=
  [ "# convention-lint configuration",
    "",
    "# Rule preset: \"recommended\" (default), \"strict\" or \"minimal\"",
    "preset = \"recommended\"",
    "",
    "# Lowest severity that fails the run: \"info\", \"warning\" or \"error\"",
    "fail_on = \"error\"",
    "",
    "[engine]",
    "# Worker threads (default: one per core)",
    "# parallelism = 4",
    "",
    "# Facts per evaluation batch",
    "batch_size = 256",
    "",
    "# Glob patterns; facts from matching files are skipped",
    "exclude = [",
    "    \"vendor/**\",",
    "    \"storage/**\",",
    "]",
    "",
    "# Rule configurations",
    "# Each rule can be enabled/disabled and have its severity overridden",
    "",
    "[rules.controller-name]",
    "enabled = true",
    "# severity = \"warning\"  # Override default severity",
    "suffix = \"Controller\"",
    "",
    "[rules.view-file-camel-case]",
    "extensions = [\".blade.php\", \".php\"]",
    "",
    "# [rules.route-name-camel-case]",
    "# enabled = false" ]

def text : String := String.join (lines.map fun line => line ++ "\n")

def report : List String :=
  [ "Created " ++ fileName,
    "",
    "Next steps:",
    "  1. Edit " ++ fileName ++ " to configure rules",
    "  2. Run: convention-lint check facts.json" ]

end NamingAudit.CommandLine.StarterSettings
