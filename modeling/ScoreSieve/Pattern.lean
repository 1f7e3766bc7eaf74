import ScoreSieve.Group

namespace ScoreSieve

/-- A combination of groups, all of which have to accept a candidate; `inverted` negates that. -/
structure Pattern where
  groups : List Group
  inverted : Bool
  deriving DecidableEq, Repr

/-- Alternative patterns; `inverted` keeps the candidates that none of them accepts. -/
structure Filter where
  patterns : List Pattern
  inverted : Bool
  deriving DecidableEq, Repr

/-- A filter with the strict mark, which only concerns how a caller pages through scores. -/
structure Expression where
  filter : Filter
  strict : Bool
  deriving DecidableEq, Repr

namespace Pattern

def hasKind (pattern : Pattern) (kind : Kind) : Bool :=
  pattern.groups.any (·.kind = kind)

def groupsOf (pattern : Pattern) (kind : Kind) : List Group :=
  pattern.groups.filter (·.kind = kind)

/-- The modifiers of all groups of one kind, each once. -/
def modsOf (pattern : Pattern) (kind : Kind) : List Mod :=
  distinct ((pattern.groupsOf kind).flatMap Group.mods)

def allMods (pattern : Pattern) : List Mod :=
  distinct (pattern.groups.flatMap Group.mods)

/-- Holds of the pattern that consists of the required group `NM`, inverted or not. -/
def isNoModOnly (pattern : Pattern) : Bool :=
  match pattern.groups with
  | [group] => group.kind = .required && group.mods.length == 1 && group.containsNoMod
  | _ => false

/-- Holds if some group demands a modifier, so that unlisted modifiers are refused. -/
def isConstrained (pattern : Pattern) : Bool :=
  pattern.hasKind .required || pattern.hasKind .exclusive

@[simp] theorem hasKind_iff {pattern : Pattern} {kind : Kind} :
    pattern.hasKind kind = true ↔ ∃ group ∈ pattern.groups, group.kind = kind := by
  simp [hasKind]

/-- A pattern asks for something if one of its groups is required or exclusive. -/
theorem isConstrained_iff {pattern : Pattern} :
    pattern.isConstrained = true ↔
      ∃ group ∈ pattern.groups, group.kind = .required ∨ group.kind = .exclusive := by
  simp only [isConstrained, Bool.or_eq_true, hasKind_iff, and_or_left, exists_or]

@[simp] theorem mem_groupsOf {pattern : Pattern} {kind : Kind} {group : Group} :
    group ∈ pattern.groupsOf kind ↔ group ∈ pattern.groups ∧ group.kind = kind := by
  simp [groupsOf]

@[simp] theorem mem_modsOf {pattern : Pattern} {kind : Kind} {mod : Mod} :
    mod ∈ pattern.modsOf kind ↔ ∃ group ∈ pattern.groupsOf kind, mod ∈ group.mods := by
  simp [modsOf]

@[simp] theorem mem_allMods {pattern : Pattern} {mod : Mod} :
    mod ∈ pattern.allMods ↔ ∃ group ∈ pattern.groups, mod ∈ group.mods := by
  simp [allMods]

end Pattern

namespace Filter

def allMods (filter : Filter) : List Mod :=
  distinct (filter.patterns.flatMap Pattern.allMods)

def isNoModOnly (filter : Filter) : Bool :=
  !filter.inverted &&
    match filter.patterns with
    | [pattern] => !pattern.inverted && pattern.isNoModOnly
    | _ => false

/-- The mentioned modifiers, apart from `NM`, that a list does not know; an empty list knows all. -/
def unknownMods (filter : Filter) (known : List Mod) : List Mod :=
  if known.isEmpty then [] else (applied filter.allMods).filter (· ∉ known)

@[simp] theorem mem_allMods {filter : Filter} {mod : Mod} :
    mod ∈ filter.allMods ↔ ∃ pattern ∈ filter.patterns, mod ∈ pattern.allMods := by
  simp [allMods]

end Filter

end ScoreSieve
