import ScoreSieve.Filter.Written
import ScoreSieve.Text.Reading

namespace ScoreSieve

/-- The bracket that closes what a bracket opens, and the kind of the group in between. -/
def closing? : Char → Option (Char × Kind)
  | '(' => some (')', .optional)
  | '[' => some (']', .exclusive)
  | '{' => some ('}', .prohibited)
  | _ => none

def isBracket (c : Char) : Bool :=
  c ∈ ['(', ')', '[', ']', '{', '}']

/-- Holds of a non-empty run of two-letter codes. -/
def isCodeRun (run : List Char) : Bool :=
  !run.isEmpty && run.length % 2 == 0 && run.all Char.isAlpha

/-- Reads a run of a body, which has no white space to spare. -/
def readCodes (run : List Char) : Except ParseError (List Mod) :=
  if isCodeRun run then Mod.parseRun run else .error (.invalidCode run)

/-- The kind of the first run of a body, the run without its brackets, and what follows it. A run in
brackets goes on to the first bracket that closes it, and is refused if it is empty or holds other
brackets; a bare run goes on to any bracket. -/
def cutRun? : List Char → Option (Kind × List Char × List Char)
  | [] => none
  | first :: rest =>
    match closing? first with
    | some (closing, kind) =>
      let run := rest.takeWhile (· ≠ closing)
      match rest.dropWhile (· ≠ closing) with
      | [] => none
      | _ :: after => if run.isEmpty || run.any isBracket then none else some (kind, run, after)
    | none =>
      if isBracket first then none
      else some (.required, first :: rest.takeWhile (!isBracket ·), rest.dropWhile (!isBracket ·))

/-- A cut takes at least one character off the body, so reading a body comes to an end. -/
theorem cutRun?_shorter {body run after : List Char} {kind : Kind}
    (cut : cutRun? body = some (kind, run, after)) : after.length < body.length := by
  cases body with
  | nil => simp [cutRun?] at cut
  | cons first rest =>
    simp only [cutRun?] at cut
    split at cut
    · next closing _ _ =>
      have bound := Text.dropWhile_length_le (· ≠ closing) rest
      split at cut
      · simp at cut
      · next tail =>
        split at cut
        · simp at cut
        · simp only [Option.some.injEq, Prod.mk.injEq] at cut
          simp only [tail, List.length_cons, cut.2.2] at bound ⊢
          omega
    · have bound := Text.dropWhile_length_le (!isBracket ·) rest
      split at cut
      · simp at cut
      · simp only [Option.some.injEq, Prod.mk.injEq] at cut
        simp only [List.length_cons, ← cut.2.2]
        omega

/-- Reads the groups of what is left of a pattern body. -/
def readGroups (body left : List Char) : Except ParseError (List Group) :=
  if left.isEmpty then .ok [] else
    match _cut : cutRun? left with
    | none => .error (.invalidGroup body)
    | some (kind, run, after) => do
      let mods ← readCodes run
      let groups ← readGroups body after
      return Group.ofMods kind mods :: groups
termination_by left.length
decreasing_by exact cutRun?_shorter _cut

/-- Reads the groups of the pattern at one place of a filter, of which there has to be one. -/
def Pattern.ofBody (position : Nat) (inverted : Bool) (body : List Char) :
    Except ParseError Pattern := do
  let groups ← readGroups body body
  if groups.isEmpty then .error (.emptyPattern position) else return ⟨groups, inverted⟩

/-- Reads the pattern at one place of a filter. -/
def Pattern.parseAt (position : Nat) : List Char → Except ParseError Pattern
  | '^' :: body => ofBody position true body
  | body => ofBody position false body

def Pattern.parse (text : List Char) : Except ParseError Pattern :=
  Pattern.parseAt 0 text

/-- Reads patterns from left to right, the first of them at the given place. -/
def readPatterns (position : Nat) : List (List Char) → Except ParseError (List Pattern)
  | [] => .ok []
  | piece :: pieces => do
    let pattern ← Pattern.parseAt position piece
    let patterns ← readPatterns (position + 1) pieces
    return pattern :: patterns

/-- Reads a sign and the patterns after it. -/
def Filter.parse (text : List Char) : Except ParseError Filter :=
  match Text.trim text with
  | '+' :: body => (readPatterns 0 (body.splitOn ',')).map (⟨·, false⟩)
  | '-' :: body => (readPatterns 0 (body.splitOn ',')).map (⟨·, true⟩)
  | unsigned => .error (.missingSign unsigned)

/-- Reads a filter that may end in the strict mark. -/
def Expression.parse (text : List Char) : Except ParseError Expression :=
  let written := Text.trim text
  if written.getLast? = some '!' then (Filter.parse written.dropLast).map (⟨·, true⟩)
  else (Filter.parse written).map (⟨·, false⟩)

end ScoreSieve
