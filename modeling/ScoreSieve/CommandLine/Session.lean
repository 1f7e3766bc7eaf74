import ScoreSieve.CommandLine.Failure

namespace ScoreSieve.CommandLine

inductive Diagnostic
  | warning (message : String)
  | error (message : String)
  deriving DecidableEq, Repr

/-- A diagnostic as it is written. -/
def Diagnostic.text : Diagnostic → String
  | warning message => "WARN " ++ message
  | error message => "Error: " ++ message

/-- What has been written so far, in the order of writing. -/
structure Console where
  output : String := ""
  diagnostics : List Diagnostic := []
  deriving DecidableEq, Repr

/-- A computation that writes to a console and may fail on the way. -/
abbrev Session :=
  ExceptT Failure (StateM Console)

/-- What a program leaves behind. -/
structure Outcome where
  exitCode : Nat
  output : String
  diagnostics : List Diagnostic
  deriving DecidableEq, Repr

namespace Session

def print (text : String) : Session Unit :=
  modify fun console => { console with output := console.output ++ text }

def warn (message : String) : Session Unit :=
  modify fun console =>
    { console with diagnostics := console.diagnostics ++ [.warning message] }

/-- How a session ends on a console, and what the console holds then. -/
def on {α : Type} (session : Session α) (console : Console) : Except Failure α × Console :=
  Id.run (StateT.run (ExceptT.run session) console)

/-- What is left of a session that starts on an empty console. -/
def outcome (session : Session Unit) : Outcome :=
  match session.on {} with
  | (.ok (), console) => ⟨0, console.output, console.diagnostics⟩
  | (.error failure, console) =>
    ⟨failure.exitCode, console.output, console.diagnostics ++ [.error failure.report]⟩

end Session

end ScoreSieve.CommandLine
