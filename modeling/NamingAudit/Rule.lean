import NamingAudit.Fact
import NamingAudit.Severity

/-! Rules: conventions over one kind of fact. A rule looks at a single fact and nothing else; what
relates two facts is checked on the composite fact that joins them. -/

namespace NamingAudit

inductive FixTarget where
  | name
  | path
  | fileName
  | key
deriving DecidableEq, Repr, Inhabited

namespace FixTarget

def all : List FixTarget := [name, path, fileName, key]

def rank : FixTarget → Nat
  | name => 0
  | path => 1
  | fileName => 2
  | key => 3

instance : Ord FixTarget where
  compare := compareOn rank

instance : Std.TransOrd FixTarget := inferInstanceAs (Std.TransCmp (compareOn rank))

def tag : FixTarget → String
  | name => "name"
  | path => "path"
  | fileName => "file-name"
  | key => "key"

def ofTag? (tag : String) : Option FixTarget := all.find? fun target => target.tag == tag

end FixTarget

/-- A violation is reported where the fact stands, or once for the whole file. -/
inductive Scope where
  | fact
  | file
deriving DecidableEq, Repr, Inhabited

structure Finding where
  message : String
  fix : Option String
  target : FixTarget
  scope : Scope
deriving DecidableEq, Repr

namespace Finding

def plain (message : String) : Finding := ⟨message, none, .name, .fact⟩

def replacing (message fix : String) : Finding := ⟨message, some fix, .name, .fact⟩

end Finding

inductive Verdict where
  | pass
  | violation (finding : Finding)
deriving DecidableEq, Repr

inductive RuleError where
  | unexpectedFact (expected actual : FactKind)
  | malformed (message : String)
deriving DecidableEq, Repr

def RuleError.message : RuleError → String
  | unexpectedFact expected actual =>
    "expected a " ++ expected.tag ++ " fact, got " ++ actual.tag
  | malformed message => message

/-- How the check of one fact ends. A rule that breaks down may leave a text. -/
inductive Outcome where
  | verdict (verdict : Verdict)
  | failed (error : RuleError)
  | panicked (text : Option String)
deriving DecidableEq, Repr

structure Rule where
  id : String
  code : String
  description : String
  appliesTo : FactKind
  defaultSeverity : Severity
  check : Fact → Outcome

namespace Rule

def checkOf (kind : FactKind) (select : Fact.Payload → Option α) (verdict : α → Verdict)
    (fact : Fact) : Outcome :=
  match select fact.payload with
  | some payload => .verdict (verdict payload)
  | none => .failed (.unexpectedFact kind fact.kind)

def onClass (verdict : ClassDecl → Verdict) : Fact → Outcome :=
  checkOf .classDecl (fun | .classDecl decl => some decl.toClassDecl | _ => none) verdict

def onMethod (verdict : MethodDecl → Verdict) : Fact → Outcome :=
  checkOf .method (fun | .method decl => some decl.toMethodDecl | _ => none) verdict

def onRoute (verdict : RouteDecl → Verdict) : Fact → Outcome :=
  checkOf .route (fun | .route decl => some decl.toRouteDecl | _ => none) verdict

def onConfigEntry (verdict : ConfigEntry → Verdict) : Fact → Outcome :=
  checkOf .configEntry (fun | .configEntry entry => some entry.toConfigEntry | _ => none) verdict

def onMigration (verdict : MigrationFile → Verdict) : Fact → Outcome :=
  checkOf .migration (fun | .migration file => some file.toMigrationFile | _ => none) verdict

def onView (verdict : ViewFile → Verdict) : Fact → Outcome :=
  checkOf .view (fun | .view file => some file.toViewFile | _ => none) verdict

def onTable (verdict : TableDecl → Verdict) : Fact → Outcome :=
  checkOf .table (fun | .table decl => some decl.toTableDecl | _ => none) verdict

def onColumn (verdict : ColumnDecl → Verdict) : Fact → Outcome :=
  checkOf .column (fun | .column decl => some decl.toColumnDecl | _ => none) verdict

def onCommand (verdict : CommandDecl → Verdict) : Fact → Outcome :=
  checkOf .command (fun | .command decl => some decl.toCommandDecl | _ => none) verdict

def onValidationRule (verdict : ValidationRule → Verdict) : Fact → Outcome :=
  checkOf .validationRule (fun | .validationRule rule => some rule.toValidationRule | _ => none) verdict

def onPivotTable (verdict : PivotTable → Verdict) : Fact → Outcome :=
  checkOf .pivotTable (fun | .pivotTable pivot => some pivot.toPivotTable | _ => none) verdict

def onForeignKey (verdict : ForeignKeyRef → Verdict) : Fact → Outcome :=
  checkOf .foreignKey (fun | .foreignKey key => some key.toForeignKeyRef | _ => none) verdict

end Rule

end NamingAudit
