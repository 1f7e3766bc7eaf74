import ScoreSieve.Profile.Basic
import ScoreSieve.Toml.Reader

namespace ScoreSieve

inductive ProfileError
  /-- The text is no TOML document, or a value has the wrong type. -/
  | malformed
  | invalidCode (cause : ParseError)
  deriving DecidableEq, Repr

namespace Toml

def toBool : Toml → Except ProfileError Bool
  | boolean value => .ok value
  | _ => .error .malformed

def toText : Toml → Except ProfileError String
  | string text => .ok text
  | _ => .error .malformed

def toMod : Toml → Except ProfileError Mod
  | string text => (Mod.parse text.toList).mapError .invalidCode
  | _ => .error .malformed

def toMods : Toml → Except ProfileError (List Mod)
  | array items => items.mapM toMod
  | _ => .error .malformed

/-- A pair of codes; whatever follows the second is ignored. -/
def toPair : Toml → Except ProfileError (Mod × Mod)
  | array (a :: rest) => do
    let a ← toMod a
    match rest with
    | b :: _ => return (a, ← toMod b)
    | [] => .error .malformed
  | _ => .error .malformed

def toPairs : Toml → Except ProfileError (List (Mod × Mod))
  | array items => items.mapM toPair
  | _ => .error .malformed

/-- The fields that a value sets. A table names them, an array gives the first few of `order`, and
a date sets none. -/
def fields (order : List String) : Toml → Except ProfileError (List (String × Toml))
  | table entries => .ok entries
  | array items => .ok (order.zip items)
  | moment _ => .ok []
  | _ => .error .malformed

end Toml

/-- Sets the fields that are given, in the order of writing. Missing ones keep their values, and the
first value that does not fit is the error. -/
def setFields {α : Type} (set : α → String → Toml → Except ProfileError α) (start : α)
    (fields : List (String × Toml)) : Except ProfileError α :=
  fields.foldlM (fun record (name, value) => set record name value) start

def Rules.set (rules : Rules) (name : String) (value : Toml) : Except ProfileError Rules :=
  match name with
  | "allow_legacy" => do return { rules with allowLegacy := ← value.toBool }
  | "legacy_mod" => do return { rules with legacyMod := ← value.toMod }
  | "interchangeable" => do return { rules with synonyms := ← value.toPairs }
  | _ => .ok rules

def Rules.ofToml (value : Toml) : Except ProfileError Rules := do
  setFields Rules.set {} (← value.fields ["allow_legacy", "legacy_mod", "interchangeable"])

/-- The known modifiers from the part of a document that describes the ruleset. -/
def knownModsOfToml (value : Toml) : Except ProfileError (List Mod) := do
  let set (known : List Mod) (name : String) (value : Toml) : Except ProfileError (List Mod) :=
    if name = "known_mods" then value.toMods else .ok known
  setFields set Profile.base.knownMods (← value.fields ["known_mods"])

def Profile.set (profile : Profile) (name : String) (value : Toml) :
    Except ProfileError Profile :=
  match name with
  | "profile_name" => do return { profile with name := ← value.toText }
  | "rules" => do return { profile with rules := ← Rules.ofToml value }
  | "profile" => do return { profile with knownMods := ← knownModsOfToml value }
  | _ => .ok profile

/-- Reads a profile by way of a reader of documents. -/
def Profile.parseWith (reader : List Char → Option (List (String × Toml))) (text : List Char) :
    Except ProfileError Profile :=
  match reader text with
  | some entries => setFields Profile.set Profile.base entries
  | none => .error .malformed

def Profile.parse (text : List Char) : Except ProfileError Profile :=
  Profile.parseWith Toml.ofText? text

end ScoreSieve
