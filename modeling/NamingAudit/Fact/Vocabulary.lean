import NamingAudit.Order
import NamingAudit.Text.Blank
import NamingAudit.Text.Letter

/-! The closed vocabularies of facts: their kinds, the roles of classes, request methods and
relations between models, each with the word that stands for it in documents and messages. -/

namespace NamingAudit

inductive FactKind where
  | classDecl
  | method
  | route
  | configEntry
  | migration
  | view
  | table
  | column
  | relation
  | command
  | validationRule
  | pivotTable
  | foreignKey
deriving DecidableEq, Repr, Inhabited

namespace FactKind

def all : List FactKind :=
  [classDecl, method, route, configEntry, migration, view, table, column, relation, command,
    validationRule, pivotTable, foreignKey]

def tag : FactKind → String
  | classDecl => "class"
  | method => "method"
  | route => "route"
  | configEntry => "config-entry"
  | migration => "migration"
  | view => "view"
  | table => "table"
  | column => "column"
  | relation => "relation"
  | command => "command"
  | validationRule => "validation-rule"
  | pivotTable => "pivot-table"
  | foreignKey => "foreign-key"

def rank : FactKind → Nat
  | classDecl => 0
  | method => 1
  | route => 2
  | configEntry => 3
  | migration => 4
  | view => 5
  | table => 6
  | column => 7
  | relation => 8
  | command => 9
  | validationRule => 10
  | pivotTable => 11
  | foreignKey => 12

instance : Ord FactKind where
  compare := compareOn rank

instance : Std.TransOrd FactKind := inferInstanceAs (Std.TransCmp (compareOn rank))

theorem rank_injective (first second : FactKind) (equal : first.rank = second.rank) :
    first = second := by
  have listed (kind : FactKind) : all[kind.rank]? = some kind := by cases kind <;> rfl
  have found := listed first
  rw [equal, listed second] at found
  exact (Option.some.inj found).symm

instance : Std.LawfulEqOrd FactKind := Order.lawfulEqCmp_compareOn rank_injective

/-- Kinds that arise only from joining other facts. -/
def isComposite : FactKind → Bool
  | pivotTable => true
  | foreignKey => true
  | _ => false

def recorded : List FactKind := all.filter fun kind => !kind.isComposite

def ofTag? (tag : String) : Option FactKind := all.find? fun kind => kind.tag == tag

end FactKind

inductive ClassRole where
  | controller
  | model
  | contract
  | mixin
  | command
  | other
deriving DecidableEq, Repr, Inhabited

namespace ClassRole

def all : List ClassRole := [controller, model, contract, mixin, command, other]

def tag : ClassRole → String
  | controller => "controller"
  | model => "model"
  | contract => "contract"
  | mixin => "trait"
  | command => "command"
  | other => "other"

def ofTag? (tag : String) : Option ClassRole := all.find? fun role => role.tag == tag

end ClassRole

inductive HttpVerb where
  | get
  | head
  | post
  | put
  | patch
  | delete
  | options
deriving DecidableEq, Repr, Inhabited

namespace HttpVerb

def all : List HttpVerb := [get, head, post, put, patch, delete, options]

def name : HttpVerb → String
  | get => "GET"
  | head => "HEAD"
  | post => "POST"
  | put => "PUT"
  | patch => "PATCH"
  | delete => "DELETE"
  | options => "OPTIONS"

def parse? (text : String) : Option HttpVerb :=
  let word := Text.asciiUpperText (Text.trim text)
  all.find? fun verb => verb.name == word

def setOf (verbs : List HttpVerb) : List HttpVerb := all.filter verbs.contains

theorem setOf_setOf (verbs : List HttpVerb) : setOf (setOf verbs) = setOf verbs :=
  List.filter_congr fun verb member => by simp [setOf, member]

end HttpVerb

inductive RelationKind where
  | belongsTo
  | hasOne
  | hasMany
  | belongsToMany
deriving DecidableEq, Repr, Inhabited

namespace RelationKind

def all : List RelationKind := [belongsTo, hasOne, hasMany, belongsToMany]

def tag : RelationKind → String
  | belongsTo => "belongs-to"
  | hasOne => "has-one"
  | hasMany => "has-many"
  | belongsToMany => "belongs-to-many"

def ofTag? (tag : String) : Option RelationKind := all.find? fun relation => relation.tag == tag

end RelationKind

end NamingAudit
