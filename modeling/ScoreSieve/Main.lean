import ScoreSieve.CommandLine.Run

namespace ScoreSieve.CommandLine

/-- The cause that the system's code for a path of the wrong kind tells. -/
def wrongKind (code : UInt32) : FileError :=
  if code = 20 then .isNoFolder else .isFolder

def readFile (path : String) : IO (Except FileError String) := do
  try
    match String.fromUTF8? (← IO.FS.readBinFile path) with
    | some text => return .ok text
    | none => return .error .noText
  catch
    | .noFileOrDirectory .. => return .error .missing
    | .inappropriateType _ code _ => return .error (wrongKind code)
    | .invalidArgument (some _) 36 _ => return .error .nameTooLong
    | error => return .error (.other (toString error))

/-- Holds if the output goes to a terminal on which colours are welcome. -/
def wantsColours : IO Bool := do
  return (← (← IO.getStdout).isTty) && (← IO.getEnv "NO_COLOR").isNone

/-- The words about a profile that cannot be used. -/
def tellProfile (_ : String) : ProfileError → String
  | .malformed => "no profile in TOML"
  | .invalidCode cause => cause.message

/-- Names with what they stand for, in two columns. -/
def described (items : List (String × String)) : List String :=
  let widest := (items.map (·.1.length)).foldl max 0
  items.map fun (name, meaning) =>
    "  " ++ name ++ String.ofList (List.replicate (widest + 2 - name.length) ' ') ++ meaning

def commandPurposes : List (String × String) :=
  [("check", "Parse a filter and show how it is normalized"),
    ("match", "Test modifier combinations against a filter"),
    ("filter", "Keep the scores from a JSON/JSON5 file whose mods match a filter"),
    ("help", "Print this message or the help of the given subcommand(s)")]

def sharedOptions : List (String × String) :=
  [("-c, --config <CONFIG>", "Ruleset profile (TOML) with interchangeable pairs and known mods " ++
      "[env: MOD_FILTER_CONFIG]"),
    ("-F, --format <FORMAT>", "Output format [default: text] [possible values: text, json]"),
    ("    --color <COLOR>", "When to colorize text output [default: auto] " ++
      "[possible values: auto, always, never]"),
    ("    --no-rules", "Skip the ruleset rewrites from the config profile"),
    ("-v, --verbose...", "Increase log verbosity (-v info, -vv debug, -vvv trace)"),
    ("-q, --quiet", "Silence log output")]

def helpOption : String × String :=
  ("-h, --help", "Print help")

/-- The help about one command. -/
def commandPage (name usage : String) (operands options : List (String × String)) : List String :=
  [(commandPurposes.lookup name).getD "", "",
    "Usage: mod-filter " ++ name ++ " [OPTIONS] " ++ usage, "", "Arguments:"] ++
    described operands ++ ["", "Options:"] ++
    described (options ++ sharedOptions ++ [helpOption])

def helpPage : Option Command → List String
  | none =>
    ["Parse modifier filter expressions and test scores against them", "",
      "Usage: mod-filter [OPTIONS] <COMMAND>", "", "Commands:"] ++ described commandPurposes ++
      ["", "Options:"] ++
      described (sharedOptions ++ [helpOption, ("-V, --version", "Print version")])
  | some .check =>
    commandPage "check" "<EXPRESSION>"
      [("<EXPRESSION>", "Filter expression, e.g. \"+HD(DT)\" or \"-NM!\"")] []
  | some .test =>
    commandPage "match" "<EXPRESSION> <CANDIDATES>..."
      [("<EXPRESSION>", "Filter expression, e.g. \"+HD(DT)\" or \"-NM!\""),
        ("<CANDIDATES>...", "Candidates as concatenated codes, e.g. HDDT; NM for no mods")] []
  | some .select =>
    commandPage "filter" "<EXPRESSION> <FILE>"
      [("<EXPRESSION>", "Filter expression, e.g. \"+HD(DT)\"; a trailing strict `!` is " ++
          "accepted but does not change which scores are selected"),
        ("<FILE>", "Score file: an array of \x7b id, mods, title, score \x7d objects")]
      [("-n, --limit <LIMIT>", "Maximum number of scores to print [default: 100]")]

/-- Ends a program whose arguments name nothing to be run. -/
def stop : Stop → IO UInt32
  | .help command => do
    (helpPage command).forM (IO.println ·)
    return 0
  | .version => do
    IO.println "mod-filter 0.1.2"
    return 0
  | .misused => do
    ["error: the arguments do not fit the usage", "", "Usage: mod-filter [OPTIONS] <COMMAND>", "",
      "For more information, try '--help'."].forM (IO.eprintln ·)
    return 2

end ScoreSieve.CommandLine

open ScoreSieve.CommandLine in
def main (args : List String) : IO UInt32 := do
  let environment ← IO.getEnv "MOD_FILTER_CONFIG"
  let paths :=
    match Invocation.parse environment args with
    | .ok invocation => invocation.paths
    | .error _ => []
  let files ← paths.mapM fun path => return (path, ← readFile path)
  let host : Host := {
    read path := (files.lookup path).getD (.error .missing)
    terminal := ← wantsColours
    tellProfile
    tellScores _ := "no list of scores in JSON" }
  match run environment host args with
  | .ok outcome =>
    outcome.diagnostics.forM (IO.eprintln ·.text)
    IO.print outcome.output
    return UInt32.ofNat outcome.exitCode
  | .error reason => stop reason
