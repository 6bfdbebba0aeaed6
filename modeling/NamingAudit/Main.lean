import NamingAudit.CommandLine

/-! The program: the command line run on the disk, the environment and the standard streams. -/

namespace NamingAudit.Main
open CommandLine (FileFault Host Completion)

def faultOf : IO.Error → FileFault
  | .noFileOrDirectory _ _ _ => .notFound
  | .permissionDenied _ _ _ => .permissionDenied
  | .inappropriateType _ 20 _ => .notADirectory
  | .inappropriateType _ _ _ => .isADirectory
  | .invalidArgument _ 36 _ => .nameTooLong
  | error => .other (toString error)

def decode (bytes : ByteArray) : Except FileFault String :=
  match String.fromUTF8? bytes with
  | some text => .ok text
  | none => .error .notText

def readFile (path : String) : IO (Except FileFault String) := do
  try
    let handle ← IO.FS.Handle.mk path .read
    return decode (← handle.readBinToEnd)
  catch error => return .error (faultOf error)

def writeFile (path text : String) : IO (Except FileFault Unit) := do
  try
    IO.FS.writeFile path text
    return .ok ()
  catch error => return .error (faultOf error)

def isFile (path : String) : IO Bool := do
  return match ← readFile path with
    | .ok _ => true
    | .error fault => fault == .notText

def isPresent (path : String) : IO Bool := do
  return match ← readFile path with
    | .ok _ => true
    | .error fault => fault != .notFound

partial def readAll (stream : IO.FS.Stream) (bytes : ByteArray) : IO ByteArray := do
  let more ← stream.read 65536
  if more.isEmpty then return bytes
  readAll stream (bytes ++ more)

def host : Host IO where
  readFile := readFile
  writeFile := writeFile
  isFile := isFile
  isPresent := isPresent
  lookUp name := IO.getEnv name
  readInput := do return decode (← readAll (← IO.getStdin) .empty)

end NamingAudit.Main

def main (arguments : List String) : IO UInt32 := do
  let completion ← NamingAudit.CommandLine.run NamingAudit.Main.host arguments
  IO.print completion.output
  IO.eprint completion.errors
  return completion.status.toUInt32
