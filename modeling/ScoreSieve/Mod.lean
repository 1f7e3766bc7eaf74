import ScoreSieve.ParseError
import ScoreSieve.Text.Blank

namespace ScoreSieve

/-- A modifier, known by its upper-case letters. Filters and files hold two-letter codes only. -/
structure Mod where
  letters : List Char
  deriving DecidableEq, Repr

namespace Mod

/-- The modifier of a text whatever it holds, without blank ends and in ASCII upper case. -/
def ofText (text : List Char) : Mod :=
  ⟨(Text.trim text).map Char.toUpper⟩

/-- The code that stands for "no modifiers"; it is never applied to a score. -/
def noMod : Mod :=
  ⟨['N', 'M']⟩

def classic : Mod :=
  ⟨['C', 'L']⟩

def isNoMod (mod : Mod) : Bool :=
  mod = noMod

def name (mod : Mod) : String :=
  String.ofList mod.letters

/-- Reads one code: two ASCII letters between blanks. -/
def parse (text : List Char) : Except ParseError Mod :=
  let code := Text.trim text
  match code with
  | [a, b] => if a.isAlpha && b.isAlpha then .ok (ofText [a, b]) else .error (.invalidCode code)
  | _ => .error (.invalidCode code)

/-- The modifiers of a run, two letters each; an odd letter at the end is dropped. -/
def pairs : List Char → List Mod
  | a :: b :: rest => ofText [a, b] :: pairs rest
  | _ => []

/-- Reads a run of codes between blanks, which may be empty. -/
def parseRun (text : List Char) : Except ParseError (List Mod) :=
  let run := Text.trim text
  if run.length % 2 = 0 ∧ run.all Char.isAlpha then .ok (pairs run) else .error (.invalidCode run)

def concat (mods : List Mod) : List Char :=
  mods.flatMap letters

/-- The run of the modifiers, or `NM` for none. -/
def label (mods : List Mod) : String :=
  if mods.isEmpty then noMod.name else String.ofList (concat mods)

end Mod

def applied (mods : List Mod) : List Mod :=
  mods.filter (!·.isNoMod)

/-- Reads the modifiers of a candidate; `NM` and the empty run both stand for none. -/
def parseCandidate (text : List Char) : Except ParseError (List Mod) :=
  (Mod.parseRun text).map applied

end ScoreSieve
