import ScoreSieve.CommandLine.Files
import ScoreSieve.ParseError

namespace ScoreSieve.CommandLine

/-- What may lie behind a fault. Nothing lies behind it in turn. -/
inductive Cause
  | refusal (error : ParseError)
  | file (error : FileError)
  /-- The words of a reader of documents about a text that it refuses. -/
  | reader (message : String)
  deriving DecidableEq, Repr

def Cause.text : Cause → String
  | refusal error => error.message
  | file error => error.message
  | reader message => message

/-- The fault that ends a stage. -/
inductive Fault
  /-- The expression or a candidate is refused. -/
  | refused (error : ParseError)
  | unreadableProfile (path : String) (source : FileError)
  | malformedProfile (path : String) (message : String)
  | unreadableScores (path : String) (source : FileError)
  | malformedScores (path : String) (message : String)
  /-- The run of modifiers of the score at this place, counted from zero, is refused. -/
  | invalidMods (position : Nat) (source : ParseError)
  deriving DecidableEq, Repr

namespace Fault

/-- The fault in words, those of what lies behind it included. -/
def text : Fault → String
  | refused error => error.message
  | unreadableProfile path source =>
    "Failed to read config file '" ++ path ++ "': " ++ source.message
  | malformedProfile path message => "Failed to parse config file '" ++ path ++ "': " ++ message
  | unreadableScores path source =>
    "Failed to read score file '" ++ path ++ "': " ++ source.message
  | malformedScores path message => "Failed to parse score file '" ++ path ++ "': " ++ message
  | invalidMods position source =>
    "Invalid mods on score #" ++ toString position ++ ": " ++ source.message

/-- What lies behind a fault. A score file that is no list of entries keeps only the words of its
reader, which are part of its own. -/
def source? : Fault → Option Cause
  | unreadableProfile _ source => some (.file source)
  | malformedProfile _ message => some (.reader message)
  | unreadableScores _ source => some (.file source)
  | invalidMods _ source => some (.refusal source)
  | refused _ => none
  | malformedScores _ _ => none

end Fault

/-- What a run fails with: a fault, with words about what was being done around it. -/
inductive Failure
  | bare (fault : Fault)
  | context (doing : String) (failure : Failure)
  deriving DecidableEq, Repr

namespace Failure

/-- What is told of a failure from the outside in. -/
def chain : Failure → List String
  | bare fault => fault.text :: (fault.source?.map Cause.text).toList
  | context doing failure => doing :: failure.chain

def message (failure : Failure) : String :=
  ": ".intercalate failure.chain

/-- The refusal that a failure is about. It is found inside any context, but not where it only lies
behind another fault. -/
def refusal? : Failure → Option ParseError
  | bare (.refused error) => some error
  | bare _ => none
  | context _ failure => failure.refusal?

def exitCode (failure : Failure) : Nat :=
  if failure.refusal?.isSome then 2 else 1

/-- The line that ends the diagnostics of a failed run. A refusal is told without its context. -/
def report (failure : Failure) : String :=
  match failure.refusal? with
  | some error => "argument not recognized: " ++ error.message
  | none => failure.message

end Failure

end ScoreSieve.CommandLine
