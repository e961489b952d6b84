import PoolRouting.CommandLine.Arguments
import PoolRouting.CommandLine.Directory
import PoolRouting.Document.Config
import PoolRouting.Document.Transaction
import PoolRouting.Json.Printer
import PoolRouting.Session

/-!
The command line: quote a swap, or give the transactions that execute it, from a configuration and a
ledger snapshot in files.
-/

namespace PoolRouting.CommandLine

/-- The content of a named file, or why it cannot be had. -/
abbrev Files := String → Except FileError String

/-- Why no snapshot could be loaded. -/
inductive SnapshotError where
  | unavailable (file : String) (error : FileError)
  | malformed
  deriving DecidableEq

/-- A failure behind correct arguments. -/
inductive Failure where
  | config (file : String) (error : ConfigError)
  | snapshot (file : String) (error : SnapshotError)
  | router (error : RouterError)
  deriving DecidableEq

/-- The outermost message of a failure. -/
def Failure.message : Failure → String
  | .config file _ => s!"loading config from {file}"
  | .snapshot file _ => s!"loading snapshot from {file}"
  | .router error => s!"{error.message} [{error.code}]"

def SnapshotError.providerError? : SnapshotError → Option ProviderError
  | .unavailable file error => some (.unavailable "ledger snapshot" s!"{file}: {error.message}")
  | .malformed => none

def loadConfig (files : Files) : Option String → Except Failure RouterConfig
  | none => .ok RouterConfig.default
  | some file =>
    match files file with
    | .error _ => .error (.config file .unavailable)
    | .ok raw => (RouterConfig.ofText raw).mapError (Failure.config file)

def loadSnapshot (files : Files) (file : String) : Except Failure Snapshot :=
  match files file with
  | .error error => .error (.snapshot file (.unavailable file error))
  | .ok raw =>
    match (Json.ofText? raw).bind Snapshot.read with
    | some snapshot => .ok snapshot
    | none => .error (.snapshot file .malformed)

/-- What a command prints about a quote. -/
def report (config : RouterConfig) (quote : Quote) : Command → Except RouterError Json
  | .quote => .ok quote.document
  | .transactions sender =>
    (quote.transactions config sender).map fun transactions =>
      .object
        [("quote", quote.document),
          ("transactions", .array (transactions.map Transaction.document))]

/-- Configuration, snapshot, quote and transactions, in this order, up to the first failure. -/
def run (files : Files) (invocation : Invocation) : Except Failure String :=
  (loadConfig files invocation.config).bind fun config =>
    (loadSnapshot files invocation.snapshot).bind fun snapshot =>
      let session := Session.start config (Ledger.ofSnapshot snapshot)
      let answer :=
        (session.resolve invocation.request).1.bind fun quote =>
          report config quote invocation.command
      (answer.mapError Failure.router).map fun document => document.indented 0 ++ "\n"

end PoolRouting.CommandLine
