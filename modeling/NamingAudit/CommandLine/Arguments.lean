import NamingAudit.Text.Pieces

/-! Arguments of a command line. Flags have a long spelling and maybe a short one, short ones may be
bundled, and a value is attached to its flag or follows it. The flags before the name of a command
and those behind it are two levels, each read on its own. -/

namespace NamingAudit.CommandLine

inductive CommandName where
  | check
  | listRules
  | init
  | help
deriving DecidableEq, Repr

namespace CommandName

def all : List CommandName := [check, listRules, init, help]

def text : CommandName → String
  | check => "check"
  | listRules => "list-rules"
  | init => "init"
  | help => "help"

def ofText? (text : String) : Option CommandName := all.find? fun name => name.text == text

def operandLimit : CommandName → Nat
  | check => 1
  | _ => 0

end CommandName

inductive OutputFormat where
  | text
  | json
  | compact
deriving DecidableEq, Repr

namespace OutputFormat

def all : List OutputFormat := [text, json, compact]

def name : OutputFormat → String
  | text => "text"
  | json => "json"
  | compact => "compact"

def ofName? (name : String) : Option OutputFormat := all.find? fun format => format.name == name

end OutputFormat

inductive Flag where
  | verbose
  | config
  | project
  | format
  | preset
  | rules
  | exclude
  | showFixes
  | force
  | help
  | version
deriving DecidableEq, Repr

namespace Flag

def long : Flag → String
  | verbose => "verbose"
  | config => "config"
  | project => "project"
  | format => "format"
  | preset => "preset"
  | rules => "rules"
  | exclude => "exclude"
  | showFixes => "show-fixes"
  | force => "force"
  | help => "help"
  | version => "version"

def short? : Flag → Option Char
  | verbose => some 'v'
  | config => some 'c'
  | format => some 'f'
  | exclude => some 'e'
  | help => some 'h'
  | version => some 'V'
  | _ => none

def takesValue : Flag → Bool
  | config | project | format | preset | rules | exclude => true
  | _ => false

def isRepeatable (flag : Flag) : Bool := flag == exclude

/-- Paths are not empty and formats have a name; any other value will do. -/
def admits (flag : Flag) (value : String) : Bool :=
  match flag with
  | config | project => !value.isEmpty
  | format => (OutputFormat.ofName? value).isSome
  | _ => true

def known : Option CommandName → List Flag
  | none => [verbose, config, help, version]
  | some .check =>
    [verbose, config, project, format, preset, rules, exclude, showFixes, help]
  | some .init => [verbose, config, force, help]
  | some _ => [verbose, config, help]

end Flag

inductive Misuse where
  | unknownFlag (spelling : String)
  | unexpectedValue (flag : Flag)
  | missingValue (flag : Flag)
  | invalidValue (flag : Flag) (value : String)
  | repeated (flag : Flag)
  | unexpectedOperand (text : String)
  | missingCommand
deriving DecidableEq, Repr

def Misuse.message : Misuse → String
  | unknownFlag spelling => "unexpected argument `" ++ spelling ++ "`"
  | unexpectedValue flag => "`--" ++ flag.long ++ "` takes no value"
  | missingValue flag => "`--" ++ flag.long ++ "` needs a value"
  | invalidValue flag value => "invalid value `" ++ value ++ "` for `--" ++ flag.long ++ "`"
  | repeated flag => "`--" ++ flag.long ++ "` cannot be used multiple times"
  | unexpectedOperand text => "unexpected argument `" ++ text ++ "`"
  | missingCommand => "a command is missing"

inductive Stop where
  | misuse (fault : Misuse)
  | help
  | version
deriving DecidableEq, Repr

inductive Argument where
  | terminator
  | long (name : String) (value : Option String)
  | short (letters : List Char)
  | operand (text : String)
deriving DecidableEq, Repr

def Argument.ofText (text : String) : Argument :=
  match text.toList with
  | ['-', '-'] => .terminator
  | '-' :: '-' :: rest =>
    let name := rest.takeWhile (· != '=')
    match rest.drop name.length with
    | _ :: value => .long (String.ofList name) (some (String.ofList value))
    | [] => .long (String.ofList name) none
  | '-' :: letter :: rest => .short (letter :: rest)
  | _ => .operand text

structure Given where
  /-- Flags with their values, which are empty for flags that take none. -/
  flags : List (Flag × String)
  operands : List String
deriving DecidableEq, Repr

namespace Given

def empty : Given := ⟨[], []⟩

def has (given : Given) (flag : Flag) : Bool := given.flags.any fun entry => entry.1 == flag

def value? (given : Given) (flag : Flag) : Option String := given.flags.lookup flag

def values (given : Given) (flag : Flag) : List String :=
  (given.flags.filter fun entry => entry.1 == flag).map Prod.snd

def put (given : Given) (flag : Flag) (value : String) : Except Stop Given :=
  match flag with
  | .help => .error .help
  | .version => .error .version
  | _ =>
    if !flag.admits value then .error (.misuse (.invalidValue flag value))
    else if given.has flag && !flag.isRepeatable then .error (.misuse (.repeated flag))
    else .ok { given with flags := given.flags ++ [(flag, value)] }

def putOperand (level : Option CommandName) (given : Given) (text : String) : Except Stop Given :=
  let limit := (level.map CommandName.operandLimit).getD 0
  if limit ≤ given.operands.length || text.isEmpty then .error (.misuse (.unexpectedOperand text))
  else .ok { given with operands := given.operands ++ [text] }

/-- Adds a flag by its long spelling, and tells whether its value has yet to follow. -/
def putLong (level : Option CommandName) (given : Given) (name : String) (value : Option String) :
    Except Stop (Given × Option Flag) :=
  match (Flag.known level).find? fun flag => flag.long == name with
  | none => .error (.misuse (.unknownFlag ("--" ++ name)))
  | some flag =>
    match flag.takesValue, value with
    | true, none => .ok (given, some flag)
    | true, some value => (given.put flag value).map fun given => (given, none)
    | false, none => (given.put flag "").map fun given => (given, none)
    | false, some _ => .error (.misuse (.unexpectedValue flag))

/-- Adds a bundle of short spellings. The first flag that takes a value takes the rest of the bundle,
where an equals sign may stand before the value. -/
def putShort (level : Option CommandName) (given : Given) :
    List Char → Except Stop (Given × Option Flag)
  | [] => .ok (given, none)
  | letter :: rest =>
    match (Flag.known level).find? fun flag => flag.short? == some letter with
    | none => .error (.misuse (.unknownFlag (String.ofList ['-', letter])))
    | some flag =>
      if flag.takesValue then
        match rest with
        | [] => .ok (given, some flag)
        | '=' :: value => (given.put flag (String.ofList value)).map fun given => (given, none)
        | value => (given.put flag (String.ofList value)).map fun given => (given, none)
      else do putShort level (← given.put flag "") rest

end Given

structure Remainder where
  command : CommandName
  arguments : List String

def commandAt? (level : Option CommandName) (text : String) : Option CommandName :=
  match level with
  | none => CommandName.ofText? text
  | some _ => none

/-- Reads one level. `awaiting` is the flag whose value has to come next: only what does not look
like a flag can be one. -/
def readLevel (level : Option CommandName) (given : Given) (awaiting : Option Flag) :
    List String → Except Stop (Given × Option Remainder)
  | [] =>
    match awaiting with
    | some flag => .error (.misuse (.missingValue flag))
    | none => .ok (given, none)
  | text :: rest =>
    match awaiting, Argument.ofText text with
    | some flag, .operand value => do readLevel level (← given.put flag value) none rest
    | some flag, _ => .error (.misuse (.missingValue flag))
    | none, .terminator => do return (← rest.foldlM (Given.putOperand level) given, none)
    | none, .long name value => do
      let (given, awaiting) ← given.putLong level name value
      readLevel level given awaiting rest
    | none, .short letters => do
      let (given, awaiting) ← given.putShort level letters
      readLevel level given awaiting rest
    | none, .operand value =>
      match commandAt? level value with
      | some command => .ok (given, some ⟨command, rest⟩)
      | none => do readLevel level (← given.putOperand level value) none rest

end NamingAudit.CommandLine
