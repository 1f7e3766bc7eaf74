import ScoreSieve.CommandLine.Arguments
import ScoreSieve.CommandLine.Session
import ScoreSieve.CommandLine.Host
import ScoreSieve.Report

namespace ScoreSieve.CommandLine

/-- The warning about a modifier that the profile does not know. -/
def unknownWarning (known : List Mod) (mod : Mod) : String :=
  "Unknown modifier '" ++ mod.name ++ "'. Known modifiers are: " ++
    ", ".intercalate (known.map Mod.name)

/-- Holds if the output is coloured; `auto` leaves that to whether it goes to a terminal. -/
def ColorMode.paints (mode : ColorMode) (terminal : Bool) : Bool :=
  match mode with
  | .auto => terminal
  | .always => true
  | .never => false

/-- The verdict on a candidate as it is written. -/
def judgeText (filter : Filter) (text : String) : Except Failure Verdict :=
  match parseCandidate text.toList with
  | .ok candidate => .ok (filter.judge candidate)
  | .error error =>
    .error (.context ("Invalid candidate mods '" ++ text ++ "'") (.bare (.refused error)))

namespace Invocation

variable (invocation : Invocation) (host : Host)

def loadProfile : Except Failure Profile :=
  match invocation.config with
  | none => .ok Profile.base
  | some path =>
    (host.loadProfile path).mapError fun fault => .context "Failed to load config" (.bare fault)

/-- Reads an expression and applies the rules of the profile. The warnings concern the filter as it
is written, without the rules. -/
def buildFilter (profile : Profile) (text : String) : Session Expression := do
  let written ← (Expression.parse text.toList).mapError fun error => Failure.bare (.refused error)
  let known := profile.knownMods
  if !invocation.quiet then
    (written.filter.unknownMods known).forM fun mod => Session.warn (unknownWarning known mod)
  return profile.adapt written invocation.applyRules

/-- A report in the format that is asked for. -/
def shown (text : String) (json : Json) : String :=
  match invocation.format with
  | .text => text
  | .json => json.text ++ "\n"

def perform : Session Unit := do
  let profile ← invocation.loadProfile host
  let coloured := invocation.color.paints host.terminal
  match invocation.task with
  | .check text => do
    let expression ← invocation.buildFilter profile text
    Session.print <|
      invocation.shown (Report.checkText coloured expression) (Report.checkJson expression)
  | .test text candidates => do
    let expression ← invocation.buildFilter profile text
    let verdicts ← (candidates.mapM (judgeText expression.filter) : Except Failure (List Verdict))
    Session.print <|
      invocation.shown (Report.matchText coloured verdicts) (Report.matchJson expression verdicts)
  | .select text path limit => do
    let expression ← invocation.buildFilter profile text
    let scores ← (host.loadScores path).mapError Failure.bare
    let selection : Selection := ⟨expression.filter.select scores limit, scores.length⟩
    Session.print <|
      invocation.shown (Report.scoresText coloured selection)
        (Report.scoresJson expression selection)

/-- The files that a run may read. -/
def paths : List String :=
  invocation.config.toList ++
    match invocation.task with
    | .select _ path _ => [path]
    | _ => []

end Invocation

/-- Runs a command line, given the profile that the environment names. Where the arguments are no
invocation it is told why. -/
def run (environment : Option String) (host : Host) (args : List String) :
    Except Stop Outcome := do
  let invocation ← Invocation.parse environment args
  return (invocation.perform host).outcome

end ScoreSieve.CommandLine
