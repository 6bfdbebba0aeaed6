import NamingAudit.Casing

/-! Plural and singular of one lower case English noun: three tables of exceptions, then the
regular endings, the first that fits deciding. -/

namespace NamingAudit.Inflection
open NamingAudit.Casing NamingAudit.Text

def irregular : List (Word × Word) :=
  [("person", "people"), ("child", "children"), ("man", "men"), ("woman", "women"),
    ("mouse", "mice"), ("goose", "geese"), ("foot", "feet"), ("tooth", "teeth"), ("ox", "oxen"),
    ("leaf", "leaves"), ("life", "lives"), ("knife", "knives"), ("wife", "wives"),
    ("half", "halves"), ("wolf", "wolves"), ("shelf", "shelves"), ("thief", "thieves"),
    ("hero", "heroes"), ("potato", "potatoes"), ("tomato", "tomatoes"), ("quiz", "quizzes"),
    ("criterion", "criteria"), ("index", "indices"), ("matrix", "matrices"),
    ("vertex", "vertices"), ("axis", "axes"), ("crisis", "crises"), ("analysis", "analyses"),
    ("thesis", "theses"), ("movie", "movies"), ("cookie", "cookies"), ("zombie", "zombies"),
    ("calorie", "calories"), ("rookie", "rookies"), ("selfie", "selfies"), ("tie", "ties"),
    ("pie", "pies")].map fun (singular, plural) => (singular.toList, plural.toList)

def singularInS : List Word :=
  ["alias", "atlas", "bias", "canvas", "chaos", "corps", "cosmos", "gas", "kudos", "lens",
    "pancreas", "plus", "thermos"].map String.toList

def uncountable : List Word :=
  ["audio", "data", "deer", "equipment", "feedback", "fish", "information", "media", "metadata",
    "money", "news", "rice", "series", "sheep", "software", "species", "staff"].map String.toList

def isUncountable (word : Word) : Bool := uncountable.contains word

def isVowel (c : Char) : Bool :=
  c == 'a' || c == 'e' || c == 'i' || c == 'o' || c == 'u'

def isSibilant (word : Word) : Bool :=
  endsWith ['s'] word || endsWith ['x'] word || endsWith ['z'] word
    || endsWith ['c', 'h'] word || endsWith ['s', 'h'] word

def regularPlural (word : Word) : Word :=
  match beforeEnding? ['y'] word with
  | some stem =>
    if stem.getLast?.any isVowel then word ++ ['s'] else stem ++ ['i', 'e', 's']
  | none => if isSibilant word then word ++ ['e', 's'] else word ++ ['s']

def pluralize (word : Word) : Word :=
  if word.isEmpty || isUncountable word then word
  else
    match irregular.find? fun entry => entry.1 == word with
    | some (_, plural) => plural
    | none =>
      if irregular.any fun entry => entry.2 == word then word else regularPlural word

def takesEs (stem : Word) : Bool :=
  singularInS.contains stem || endsWith ['s', 's'] stem || endsWith ['u', 's'] stem
    || endsWith ['x'] stem || endsWith ['z'] stem
    || endsWith ['c', 'h'] stem || endsWith ['s', 'h'] stem

def isSingularEnding (word : Word) : Bool :=
  endsWith ['s', 's'] word || endsWith ['u', 's'] word || endsWith ['i', 's'] word

/-- The singular by the last letters alone, once `ies` and `es` have been looked at. -/
def dropFinalS (word : Word) : Word :=
  if isSingularEnding word then word
  else
    match beforeEnding? ['s'] word with
    | some stem => if stem.isEmpty then word else stem
    | none => word

def singularOfEs (word : Word) : Word :=
  match beforeEnding? ['e', 's'] word with
  | some stem => if takesEs stem then stem else dropFinalS word
  | none => dropFinalS word

def regularSingular (word : Word) : Word :=
  match (beforeEnding? ['i', 'e', 's'] word).filter fun stem => !stem.isEmpty with
  | some stem => stem ++ ['y']
  | none => if singularInS.contains word then word else singularOfEs word

def singularize (word : Word) : Word :=
  if word.isEmpty || isUncountable word then word
  else
    match irregular.find? fun entry => entry.2 == word with
    | some (singular, _) => singular
    | none =>
      if irregular.any fun entry => entry.1 == word then word else regularSingular word

end NamingAudit.Inflection
