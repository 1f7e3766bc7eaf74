import ScoreSieve.CommandLine.Failure
import ScoreSieve.Profile.Reader
import ScoreSieve.Score.Reader

namespace ScoreSieve.CommandLine

/-- What a run finds around it: the files, whether its output goes to a terminal, and the readers of
documents with their words about a text that cannot be used. -/
structure Host where
  read : String → Except FileError String
  terminal : Bool
  readToml : List Char → Option (List (String × Toml)) := Toml.ofText?
  tellProfile : String → ProfileError → String
  readJson : List Char → Option Json := Json.ofText?
  tellScores : String → String

namespace Host

variable (host : Host)

def loadProfile (path : String) : Except Fault Profile := do
  let text ← (host.read path).mapError (.unreadableProfile path)
  (Profile.parseWith host.readToml text.toList).mapError fun error =>
    .malformedProfile path (host.tellProfile text error)

def loadScores (path : String) : Except Fault (List Score) := do
  let text ← (host.read path).mapError (.unreadableScores path)
  (Score.parseWith host.readJson text.toList).mapError fun
    | .malformed => .malformedScores path (host.tellScores text)
    | .invalidMods position cause => .invalidMods position cause

end Host

end ScoreSieve.CommandLine
