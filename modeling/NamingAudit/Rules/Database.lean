import NamingAudit.Identifier
import NamingAudit.Rule

/-! Names of tables and columns, and of the pivot tables and foreign keys that join models. -/

namespace NamingAudit.Rules
open NamingAudit.Text

/-- Tables are plural and in snake case; pivot tables follow a rule of their own. -/
def tableName (decl : TableDecl) : Verdict :=
  if decl.isPivot then .pass
  else
    let expected := Identifier.pluralSnake decl.name
    if expected == decl.name then .pass
    else
      .violation (.replacing
        ("Table names must be plural snake_case: expected `" ++ expected ++ "`") expected)

def columnSnakeCase (decl : ColumnDecl) : Verdict :=
  if Identifier.isSnake decl.name then .pass
  else
    let expected := Identifier.snake decl.name
    .violation (.replacing
      ("Column names must be snake_case: expected `" ++ expected ++ "`") expected)

/-- The column name behind the model name of its table, if that is not all of it. A column `id`
behind the model name is left alone. -/
def redundantRest? (decl : ColumnDecl) : Option String :=
  let beginning := Identifier.singularSnake decl.table ++ "_"
  match afterBeginning? beginning.toList decl.name.toList with
  | none => none
  | some [] => none
  | some rest => if rest == ['i', 'd'] then none else some (String.ofList rest)

/-- A column does not repeat the model name of its table, unless it is a foreign key. -/
def columnModelPrefix (decl : ColumnDecl) : Verdict :=
  if decl.references.isSome then .pass
  else
    match redundantRest? decl with
    | none => .pass
    | some rest =>
      .violation (.replacing
        ("Column `" ++ decl.name ++ "` repeats the model name of table `" ++ decl.table
          ++ "`: expected `" ++ rest ++ "`")
        rest)

def pivotName (first second : String) : String :=
  let one := Identifier.singularSnake first
  let other := Identifier.singularSnake second
  if one ≤ other then one ++ "_" ++ other else other ++ "_" ++ one

def pivotTableName (pivot : PivotTable) : Verdict :=
  let expected := pivotName pivot.firstModel pivot.secondModel
  if pivot.table == expected then .pass
  else
    .violation (.replacing
      ("Pivot table names must be singular model names in alphabetical order: expected `"
        ++ expected ++ "`")
      expected)

def foreignKeyName (key : ForeignKeyRef) : Verdict :=
  let expected := Identifier.singularSnake key.referencedModel ++ "_id"
  if key.column == expected then .pass
  else
    .violation (.replacing
      ("Foreign key `" ++ key.table ++ "." ++ key.column ++ "` must be named after model `"
        ++ key.referencedModel ++ "`: expected `" ++ expected ++ "`")
      expected)

end NamingAudit.Rules
