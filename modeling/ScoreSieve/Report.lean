import ScoreSieve.Filter.Outlook
import ScoreSieve.Filter.Written
import ScoreSieve.Json.Value
import ScoreSieve.Score.Basic
import ScoreSieve.Text.Grid
import ScoreSieve.Text.Paint

namespace ScoreSieve

open Text

/-- The verdict of a filter on one candidate. -/
structure Verdict where
  candidate : List Mod
  accepted : Bool
  deriving DecidableEq, Repr

/-- The scores that a filter selects, and how many it has seen. -/
structure Selection where
  scores : List Score
  scanned : Nat
  deriving DecidableEq, Repr

def Filter.judge (filter : Filter) (candidate : List Mod) : Verdict :=
  ⟨candidate, filter.accepts candidate⟩

namespace Report

def outlookLabel (coloured : Bool) : Outlook → String
  | .undecided => "depends on mods"
  | .always true => Paint.green.apply coloured "always matches"
  | .always false => Paint.red.apply coloured "never matches"

def verdictLabel (coloured accepted : Bool) : String :=
  if accepted then Paint.boldGreen.apply coloured "match" else Paint.red.apply coloured "no match"

def expressionText (expression : Expression) : String :=
  String.ofList expression.text

def patternRow (coloured : Bool) (position : Nat) (pattern : Pattern) : List String :=
  [toString (position + 1), String.ofList pattern.text, String.ofList pattern.normalize.text,
    outlookLabel coloured pattern.outlook]

/-- What can be said of an expression without candidates. -/
def checkText (coloured : Bool) (expression : Expression) : String :=
  let filter := expression.filter
  let rows := filter.patterns.zipIdx.map fun (pattern, position) =>
    patternRow coloured position pattern
  let summary :=
    ["Filter:       " ++ Paint.cyan.apply coloured (expressionText expression),
      "Strict:       " ++ toString expression.strict,
      "Unrestricted: " ++ if filter.isUnrestricted then "yes" else "no",
      "Result:       " ++ outlookLabel coloured filter.outlook]
  let table := "" :: Grid.lines ["#", "Pattern", "Normalized", "Early result"] rows
  ofLines (summary ++ if rows.isEmpty then [] else table)

def modsJson (mods : List Mod) : Json :=
  .array (mods.map (.string ·.name))

def outlookJson (outlook : Outlook) : Json :=
  .ofOption .boolean outlook.verdict?

def groupJson (group : Group) : Json :=
  .object [("kind", .string group.kind.name), ("mods", modsJson group.mods)]

def patternJson (pattern : Pattern) : Json :=
  .object [
    ("early_return", outlookJson pattern.outlook),
    ("groups", .array (pattern.normalize.groups.map groupJson)),
    ("normalized", .string (String.ofList pattern.normalize.text)),
    ("pattern", .string (String.ofList pattern.text))]

def checkJson (expression : Expression) : Json :=
  let filter := expression.filter
  .object [
    ("early_return", outlookJson filter.outlook),
    ("filter", .string (expressionText expression)),
    ("inverted", .boolean filter.inverted),
    ("patterns", .array (filter.patterns.map patternJson)),
    ("strict", .boolean expression.strict),
    ("unrestricted", .boolean filter.isUnrestricted)]

def verdictRow (coloured : Bool) (verdict : Verdict) : List String :=
  [Mod.label verdict.candidate, verdictLabel coloured verdict.accepted]

/-- The verdicts on candidates, one row for each of them. -/
def matchText (coloured : Bool) (verdicts : List Verdict) : String :=
  ofLines (Grid.lines ["Mods", "Result"] (verdicts.map (verdictRow coloured)))

def verdictJson (verdict : Verdict) : Json :=
  .object [
    ("candidate", modsJson verdict.candidate),
    ("matched", .boolean verdict.accepted)]

def matchJson (expression : Expression) (verdicts : List Verdict) : Json :=
  .object [
    ("filter", .string (expressionText expression)),
    ("results", .array (verdicts.map verdictJson))]

def scoreRow (score : Score) : List String :=
  [toString score.id, score.title.getD "-", Mod.label score.mods,
    (score.points.map toString).getD ""]

/-- How many scores were selected, and a row for each. -/
def scoresText (coloured : Bool) (selection : Selection) : String :=
  let count := Paint.bold.apply coloured (toString selection.scores.length)
  let summary := count ++ " of " ++ toString selection.scanned ++ " scores matched"
  let table := Grid.lines ["ID", "Title", "Mods", "Score"] (selection.scores.map scoreRow)
  ofLines (summary :: if selection.scores.isEmpty then [] else table)

def scoreJson (score : Score) : Json :=
  .object [
    ("id", .ofNat score.id),
    ("mods", modsJson score.mods),
    ("score", .ofOption .ofNat score.points),
    ("title", .ofOption .string score.title)]

/-- The scores of a selection, as an object with its members in the order of their names. -/
def scoresJson (expression : Expression) (selection : Selection) : Json :=
  .object [
    ("filter", .string (expressionText expression)),
    ("matched", .ofNat selection.scores.length),
    ("scanned", .ofNat selection.scanned),
    ("scores", .array (selection.scores.map scoreJson))]

end Report

end ScoreSieve
