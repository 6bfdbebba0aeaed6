import NamingAudit.Identifier
import NamingAudit.Rule
import NamingAudit.Text.Bytes

/-! Routes: the shape of their paths, their names and their parameters. Every rule that looks at the
path suggests the same normalized path, so that whichever fix is taken settles the others too. -/

namespace NamingAudit.Rules
open NamingAudit.Text NamingAudit.Casing

def isPlaceholder (segment : List Char) : Bool :=
  segment.head? == some '\x7b' && segment.getLast? == some '\x7d'

def placeholderInner (segment : List Char) : List Char := (segment.drop 1).dropLast

/-- The text between the braces, from behind the first byte up to the last. -/
def cutPlaceholder? (segment : List Char) : Option (List Char) :=
  slice? 1 (byteLength segment - 1) segment

def isUrlSegment (segment : List Char) : Bool :=
  segment.isEmpty || isPlaceholder segment || isKebab segment || segment.all isAsciiDigit

def withoutMarks (parameter : List Char) : List Char := dropWhileEnd (· == '?') parameter

def placeholderParameters (path : List Char) : List (List Char) :=
  ((splitOn '/' path).filter isPlaceholder).map fun segment =>
    withoutMarks (placeholderInner segment)

def normalizedPlaceholder (segment : List Char) : List Char :=
  let inner := placeholderInner segment
  let (name, mark) :=
    match beforeEnding? ['?'] inner with
    | some name => (name, ['?'])
    | none => (inner, [])
  if isCamel name then segment else '\x7b' :: (toCamel name ++ mark ++ ['\x7d'])

def normalizedSegment (segment : List Char) : List Char :=
  if isPlaceholder segment then normalizedPlaceholder segment
  else if isUrlSegment segment then segment
  else toKebab segment

/-- No leading slash but for the root, fixed segments in kebab case, parameters in camel case. -/
def normalizedPath (path : List Char) : List Char :=
  let trimmed := path.dropWhile (· == '/')
  if trimmed.isEmpty then ['/']
  else joinWith '/' ((splitOn '/' trimmed).map normalizedSegment)

def pathViolation (complaint path : String) : Verdict :=
  let expected := String.ofList (normalizedPath path.toList)
  .violation
    { message := complaint ++ ": expected `" ++ expected ++ "`"
      fix := some expected
      target := .path
      scope := .fact }

def routeUrlKebabCase (decl : RouteDecl) : Verdict :=
  if (splitOn '/' decl.path.toList).all isUrlSegment then .pass
  else pathViolation "Route URLs must be kebab-case without underscores" decl.path

def routeLeadingSlash (decl : RouteDecl) : Verdict :=
  if decl.path == "/" || decl.path.toList.head? != some '/' then .pass
  else pathViolation "Route URLs must not start with a slash unless root" decl.path

def isDottedCamel (name : List Char) : Bool := (splitOn '.' name).all isCamel

def dottedCamel (name : List Char) : List Char :=
  joinWith '.' (((splitOn '.' name).filter fun segment => !segment.isEmpty).map toCamel)

def routeNameCamelCase (decl : RouteDecl) : Verdict :=
  match decl.name with
  | none => .pass
  | some name =>
    if isDottedCamel name.toList then .pass
    else
      let expected := String.ofList (dottedCamel name.toList)
      .violation (.replacing
        ("Route names must be camelCase with dot hierarchy: expected `" ++ expected ++ "`")
        expected)

def parameterComplaint (parameter : List Char) : String :=
  "`" ++ String.ofList parameter ++ "` → `" ++ String.ofList (toCamel parameter) ++ "`"

/-- The declared parameters, or those in the path when none are declared. -/
def parametersOf (decl : RouteDecl) : List (List Char) :=
  if decl.parameters.isEmpty then placeholderParameters decl.path.toList
  else decl.parameters.map fun parameter => withoutMarks parameter.toList

/-- Parameters are in camel case. Where the path itself is in order there is nothing to rewrite. -/
def routeParamCamelCase (decl : RouteDecl) : Verdict :=
  let offending := (parametersOf decl).filter fun parameter => !isCamel parameter
  if offending.isEmpty then .pass
  else
    let message :=
      "Route parameters must be camelCase: " ++ ", ".intercalate (offending.map parameterComplaint)
    if (placeholderParameters decl.path.toList).all isCamel then .violation (.plain message)
    else
      .violation
        { message := message
          fix := some (String.ofList (normalizedPath decl.path.toList))
          target := .path
          scope := .fact }

end NamingAudit.Rules
