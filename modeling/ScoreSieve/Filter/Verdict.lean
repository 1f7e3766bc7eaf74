import ScoreSieve.Filter.Outlook

namespace ScoreSieve

/-- What one group finds in a candidate. -/
inductive Finding
  | failed
  | satisfied
  /-- An optional group is not there as a whole, so its modifiers are not to be there. -/
  | unsatisfied
  deriving DecidableEq, Repr

/-- The modifiers of a group that a candidate has, in the order of the group. -/
def present (candidate mods : List Mod) : List Mod :=
  mods.filter (· ∈ candidate)

namespace Group

/-- The finding of a group without `NM` on the applied modifiers. -/
def findingReal (kind : Kind) (mods candidate : List Mod) : Finding :=
  let count := (present candidate mods).length
  match kind with
  | .required => if count = mods.length then .satisfied else .failed
  | .optional => if count = mods.length then .satisfied else .unsatisfied
  | .exclusive => if count = 1 then .satisfied else .failed
  | .prohibited => if count = 0 then .satisfied else .failed

/-- The finding of a group with `NM`, which is met if no modifier is applied. -/
def findingNoMod (group : Group) (candidate : List Mod) : Finding :=
  let alone := group.mods.length == 1
  let none := candidate.isEmpty
  match group.kind with
  | .required => if alone && none then .satisfied else .failed
  | .optional => if alone && none then .satisfied else .unsatisfied
  | .exclusive =>
    if none then .satisfied else findingReal .exclusive (applied group.mods) candidate
  | .prohibited =>
    if none then .failed else findingReal .prohibited (applied group.mods) candidate

def finding (group : Group) (candidate : List Mod) : Finding :=
  if group.containsNoMod then group.findingNoMod candidate
  else findingReal group.kind group.mods candidate

def isMissing (group : Group) (candidate : List Mod) : Bool :=
  group.kind = .optional && group.finding candidate = .unsatisfied

end Group

namespace Pattern

/-- The modifiers of all groups but the prohibited and the skipped ones. -/
def possibleMods (pattern : Pattern) (skipped : Group → Bool) : List Mod :=
  (pattern.groups.filter fun group => group.kind ≠ .prohibited && !skipped group).flatMap Group.mods

/-- Holds if the pattern is constrained and an applied modifier is not a possible one. -/
def isExceeded (pattern : Pattern) (candidate possible : List Mod) : Bool :=
  pattern.isConstrained && candidate.any (· ∉ possible)

/-- The verdict of the groups on the applied modifiers, inversion apart. What no group lists is
refused before the groups are looked at, what only missing groups list is refused after that. -/
def admits (pattern : Pattern) (candidate : List Mod) : Bool :=
  if pattern.isExceeded candidate (pattern.possibleMods fun _ => false) then false
  else if pattern.groups.any (·.finding candidate = .failed) then false
  else !pattern.isExceeded candidate (pattern.possibleMods (·.isMissing candidate))

@[simp] theorem mem_possibleMods {pattern : Pattern} {skipped : Group → Bool} {mod : Mod} :
    mod ∈ pattern.possibleMods skipped ↔
      ∃ group ∈ pattern.groups, (group.kind ≠ .prohibited ∧ skipped group = false) ∧
        mod ∈ group.mods := by
  simp [possibleMods, and_assoc]

@[simp] theorem isExceeded_eq_false_iff {pattern : Pattern} {candidate possible : List Mod} :
    pattern.isExceeded candidate possible = false ↔
      (pattern.isConstrained = true → ∀ mod ∈ candidate, mod ∈ possible) := by
  simp [isExceeded, Bool.and_eq_false_imp]

/-- The verdict that comes from the groups in normal form, whatever the outlook. -/
def evaluate (pattern : Pattern) (candidate : List Mod) : Bool :=
  pattern.normalize.admits (applied candidate) ^^ pattern.inverted

/-- The verdict of a pattern; `NM` in a candidate is ignored. -/
def accepts (pattern : Pattern) (candidate : List Mod) : Bool :=
  pattern.outlook.verdict?.getD (pattern.evaluate candidate)

end Pattern

namespace Filter

/-- The verdict of a filter: some pattern accepts the candidate, unless inverted. -/
def accepts (filter : Filter) (candidate : List Mod) : Bool :=
  filter.outlook.verdict?.getD
    (filter.patterns.any (·.accepts candidate) ^^ filter.inverted)

end Filter

end ScoreSieve
