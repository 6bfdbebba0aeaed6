import NamingAudit.Identifier
import NamingAudit.Rule

/-! Names of methods, and the verbs that the actions of a resource controller answer to. -/

namespace NamingAudit.Rules
open NamingAudit.Text

def methodCamelCase (decl : MethodDecl) : Verdict :=
  if startsWith ['_', '_'] decl.name.toList || Identifier.isCamel decl.name then .pass
  else
    let expected := Identifier.camel decl.name
    .violation (.replacing ("Method names must be camelCase: expected `" ++ expected ++ "`") expected)

def resourceActions : List (String × List HttpVerb) :=
  [("index", [.get, .head]), ("create", [.get, .head]), ("store", [.post]),
    ("show", [.get, .head]), ("edit", [.get, .head]), ("update", [.put, .patch]),
    ("destroy", [.delete])]

def resourceActionVerb (decl : MethodDecl) : Verdict :=
  if decl.ownerRole != .controller then .pass
  else
    match resourceActions.lookup decl.name with
    | none => .pass
    | some allowed =>
      let unexpected := decl.verbs.filter fun verb => !allowed.contains verb
      if unexpected.isEmpty then .pass
      else
        .violation (.plain
          ("Resource action `" ++ decl.name ++ "` must be routed by "
            ++ "/".intercalate (allowed.map HttpVerb.name) ++ " (found "
            ++ ", ".intercalate (unexpected.map HttpVerb.name) ++ ")"))

end NamingAudit.Rules
