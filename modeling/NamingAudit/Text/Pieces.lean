/-! Texts in pieces: between separators, before an ending, behind a beginning. -/

namespace NamingAudit.Text

/-- What lies between the separators. There is always at least one piece, maybe an empty one. -/
def splitOn (separator : Char) : List Char → List (List Char)
  | [] => [[]]
  | c :: rest =>
    if c == separator then [] :: splitOn separator rest
    else
      match splitOn separator rest with
      | [] => [[c]]
      | piece :: pieces => (c :: piece) :: pieces

def joinWith (separator : Char) (pieces : List (List Char)) : List Char :=
  [separator].intercalate pieces

def endsWith (ending text : List Char) : Bool := ending.isSuffixOf text

def startsWith (beginning text : List Char) : Bool := beginning.isPrefixOf text

def beforeEnding? (ending text : List Char) : Option (List Char) :=
  if endsWith ending text then some (text.take (text.length - ending.length)) else none

def afterBeginning? (beginning text : List Char) : Option (List Char) :=
  if startsWith beginning text then some (text.drop beginning.length) else none

def dropWhileEnd (p : Char → Bool) (text : List Char) : List Char :=
  (text.reverse.dropWhile p).reverse

/-- The last component of a path written with slashes of either kind. -/
def baseName (path : List Char) : List Char :=
  (path.reverse.takeWhile fun c => c != '/' && c != '\\').reverse

def cutAtDot (text : List Char) : List Char × List Char :=
  (text.takeWhile (· != '.'), text.dropWhile (· != '.'))

/-- Stem and extension of a file name. The extension begins at the first dot, unless the name
begins with that dot. -/
def fileParts (path : List Char) : List Char × List Char :=
  let base := baseName path
  if base.head? == some '.' then (base, []) else cutAtDot base

end NamingAudit.Text
