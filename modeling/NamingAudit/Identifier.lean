import NamingAudit.Inflection

/-! Identifiers as texts: their casing, and the names that go with one thing in class, table and
column names, where only the last word takes a grammatical number. -/

namespace NamingAudit.Identifier
open NamingAudit.Text NamingAudit.Casing NamingAudit.Inflection

def words (ident : String) : List String := (Casing.words ident.toList).map String.ofList

def isSnake (ident : String) : Bool := Casing.isSnake ident.toList

def isKebab (ident : String) : Bool := Casing.isKebab ident.toList

def isCamel (ident : String) : Bool := Casing.isCamel ident.toList

def isPascal (ident : String) : Bool := Casing.isPascal ident.toList

def snake (ident : String) : String := String.ofList (toSnake ident.toList)

def kebab (ident : String) : String := String.ofList (toKebab ident.toList)

def camel (ident : String) : String := String.ofList (toCamel ident.toList)

def pascal (ident : String) : String := String.ofList (toPascal ident.toList)

def capitalized (ident : String) : String := String.ofList (capitalize ident.toList)

def mapLast (change : Word → Word) : List Word → List Word
  | [] => []
  | [last] => [change last]
  | first :: second :: rest => first :: mapLast change (second :: rest)

def singularPascal (ident : String) : String :=
  String.ofList (joinPascal (mapLast singularize (Casing.words ident.toList)))

def singularSnake (ident : String) : String :=
  String.ofList (joinWith '_' (mapLast singularize (Casing.words ident.toList)))

/-- `BlogPost` becomes `blog_posts`; a plural is brought back to the singular first. -/
def pluralSnake (ident : String) : String :=
  String.ofList (joinWith '_'
    (mapLast (fun word => pluralize (singularize word)) (Casing.words ident.toList)))

end NamingAudit.Identifier
