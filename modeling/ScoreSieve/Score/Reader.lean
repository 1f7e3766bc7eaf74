import ScoreSieve.Json.Reader
import ScoreSieve.Score.Basic

namespace ScoreSieve

/-- The value of a member. A name must not occur twice. -/
def member? (name : String) (members : List (String × Json)) : Option (Option Json) :=
  match members.filter (·.1 = name) with
  | [] => some none
  | [(_, value)] => some (some value)
  | _ => none

/-- A number below 2^64, or none if the value is `null`. -/
def count? : Json → Option (Option Nat)
  | .null => some none
  | .integer n => if 0 ≤ n ∧ n < UInt64.size then some (some n.toNat) else none
  | _ => none

def title? : Json → Option (Option String)
  | .null => some none
  | .string text => some (some text)
  | _ => none

def code? : Json → Option Mod
  | .string text => (Mod.parse text.toList).toOption
  | _ => none

def writtenMods? : Json → Option WrittenMods
  | .array items => (items.mapM code?).map .codes
  | .string text => some (.run text.toList)
  | _ => none

/-- An entry from the members of an object. Members with other names are ignored. -/
def Entry.ofMembers? (members : List (String × Json)) : Option Entry := do
  let read {α : Type} (name : String) (missing : α) (value? : Json → Option α) : Option α := do
    match ← member? name members with
    | none => return missing
    | some value => value? value
  let id ← read "id" none count?
  let title ← read "title" none title?
  let points ← read "score" none count?
  let mods ← read "mods" (.codes []) writtenMods?
  return ⟨id, title, points, mods⟩

def Entry.ofJson? : Json → Option Entry
  | .object members => Entry.ofMembers? members
  | _ => none

/-- A score file is a list of objects, each with an optional number, title, score and modifiers. -/
def Entry.listOfJson? : Json → Option (List Entry)
  | .array items => items.mapM Entry.ofJson?
  | _ => none

def Score.listOfJson (json : Json) : Except ScoreError (List Score) :=
  match Entry.listOfJson? json with
  | some entries => Entry.scores 0 entries
  | none => .error .malformed

/-- Reads scores by way of a reader of documents. -/
def Score.parseWith (reader : List Char → Option Json) (text : List Char) :
    Except ScoreError (List Score) :=
  match reader text with
  | some json => Score.listOfJson json
  | none => .error .malformed

def Score.parseFile (text : List Char) : Except ScoreError (List Score) :=
  Score.parseWith Json.ofText? text

end ScoreSieve
