import NamingAudit.Fact.Payload
import NamingAudit.Location

/-! A fact: one structural observation about a code base and the place where it was made. -/

namespace NamingAudit

namespace Fact

inductive Payload where
  | classDecl (decl : Class)
  | method (decl : Method)
  | route (decl : Route)
  | configEntry (entry : Config)
  | migration (file : Migration)
  | view (file : View)
  | table (decl : Table)
  | column (decl : Column)
  | relation (decl : Relation)
  | command (decl : Command)
  | validationRule (rule : Validation)
  | pivotTable (pivot : Pivot)
  | foreignKey (key : Key)
deriving DecidableEq, Repr

namespace Payload

def kind : Payload → FactKind
  | classDecl _ => .classDecl
  | method _ => .method
  | route _ => .route
  | configEntry _ => .configEntry
  | migration _ => .migration
  | view _ => .view
  | table _ => .table
  | column _ => .column
  | relation _ => .relation
  | command _ => .command
  | validationRule _ => .validationRule
  | pivotTable _ => .pivotTable
  | foreignKey _ => .foreignKey

end Payload

end Fact

structure Fact where
  location : Location
  payload : Fact.Payload
deriving DecidableEq, Repr

namespace Fact

def kind (fact : Fact) : FactKind := fact.payload.kind

def same (first second : Fact) : Bool :=
  first.location.same second.location && first.payload == second.payload

end Fact

end NamingAudit
