import PoolRouting.CommandLine

/-!
The program: reads its arguments and files, prints the answer, and reports failures on the error
stream.
-/

namespace PoolRouting.CommandLine

def usage : String :=
  "usage: [--config FILE] [--snapshot FILE] quote|transactions --token-in ID --token-out ID " ++
    "[--amount-in N | --amount-out N] [--tolerance FRACTION] [--sender ADDRESS]"

def ConfigError.text : ConfigError → String
  | .unavailable => "the file cannot be read"
  | .malformed => "the file is no configuration"
  | .invalid fault => fault.fullMessage

def Failure.cause : Failure → String
  | .config _ error => ConfigError.text error
  | .snapshot _ error =>
    match error.providerError? with
    | some error => error.message
    | none => "the file is no snapshot"
  | .router _ => ""

def fileError : IO.Error → FileError
  | .noFileOrDirectory _ _ _ => .missing
  | .inappropriateType _ code _ => if code = 20 then .notDirectory else .isDirectory
  | error => .other (toString error)

/-- The content of a file as the operating system gives it. -/
def readFile (file : String) : IO (Except FileError String) := do
  try
    let bytes ← IO.FS.readBinFile file
    match String.fromUTF8? bytes with
    | some text => return .ok text
    | none => return .error .notText
  catch error =>
    return .error (fileError error)

/-- The files that an invocation names. -/
def gather (invocation : Invocation) : IO Files := do
  let config ← invocation.config.mapM readFile
  let snapshot ← readFile invocation.snapshot
  return fun file => if file = invocation.snapshot then snapshot else config.getD snapshot

def isRequest : UsageError → Bool
  | .help => true
  | .version => true
  | _ => false

end PoolRouting.CommandLine

open PoolRouting.CommandLine in
def main (arguments : List String) : IO UInt32 := do
  match Invocation.ofArguments arguments with
  | .error error =>
    IO.eprintln usage
    return if isRequest error then 0 else 2
  | .ok invocation =>
    match run (← gather invocation) invocation with
    | .ok text =>
      IO.print text
      return 0
    | .error failure =>
      IO.eprintln s!"Error: {failure.message}"
      IO.eprintln failure.cause
      return 1
