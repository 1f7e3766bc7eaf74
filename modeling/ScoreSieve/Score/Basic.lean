import ScoreSieve.Filter.Verdict

namespace ScoreSieve

/-- A score with its modifiers as they were read. -/
structure Score where
  id : Nat
  title : Option String
  points : Option Nat
  mods : List Mod
  deriving DecidableEq, Repr

/-- The modifiers of an entry as they are written: a list of codes or one run. -/
inductive WrittenMods
  | codes (mods : List Mod)
  | run (text : List Char)
  deriving DecidableEq, Repr

/-- What a score file says about one score. -/
structure Entry where
  id : Option Nat
  title : Option String
  points : Option Nat
  mods : WrittenMods
  deriving DecidableEq, Repr

inductive ScoreError
  /-- The text is no list of entries. -/
  | malformed
  /-- The run of modifiers of the entry at this place, counted from zero, cannot be read. -/
  | invalidMods (position : Nat) (cause : ParseError)
  deriving DecidableEq, Repr

def WrittenMods.read : WrittenMods → Except ParseError (List Mod)
  | .codes mods => .ok mods
  | .run text => Mod.parseRun text

/-- The score of the entry at a place, which serves as its number if the entry has none. -/
def Entry.score (position : Nat) (entry : Entry) : Except ScoreError Score :=
  match entry.mods.read with
  | .ok mods => .ok ⟨entry.id.getD (position + 1), entry.title, entry.points, mods⟩
  | .error cause => .error (.invalidMods position cause)

/-- The scores of entries, the first of which is at the given place. -/
def Entry.scores (position : Nat) : List Entry → Except ScoreError (List Score)
  | [] => .ok []
  | entry :: entries => do
    let score ← entry.score position
    let scores ← Entry.scores (position + 1) entries
    return score :: scores

/-- The first scores, at most `limit`, that the filter accepts. -/
def Filter.select (filter : Filter) (scores : List Score) (limit : Nat) : List Score :=
  if filter.isUnrestricted then scores.take limit
  else (scores.filter (filter.accepts ·.mods)).take limit

end ScoreSieve
