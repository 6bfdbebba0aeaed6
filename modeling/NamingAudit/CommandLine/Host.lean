/-! What a command line asks of the system around it, and how the system may fail. -/

namespace NamingAudit.CommandLine

inductive FileFault where
  | notFound
  | permissionDenied
  | notADirectory
  | isADirectory
  | nameTooLong
  | notText
  | other (message : String)
deriving DecidableEq, Repr

def FileFault.message : FileFault → String
  | notFound => "No such file or directory (os error 2)"
  | permissionDenied => "Permission denied (os error 13)"
  | notADirectory => "Not a directory (os error 20)"
  | isADirectory => "Is a directory (os error 21)"
  | nameTooLong => "File name too long (os error 36)"
  | notText => "stream did not contain valid UTF-8"
  | other message => message

structure Host (m : Type → Type) where
  readFile : String → m (Except FileFault String)
  writeFile : String → String → m (Except FileFault Unit)
  /-- Something to read stands at the path. -/
  isFile : String → m Bool
  /-- Anything stands at the path. -/
  isPresent : String → m Bool
  lookUp : String → m (Option String)
  readInput : m (Except FileFault String)

end NamingAudit.CommandLine
