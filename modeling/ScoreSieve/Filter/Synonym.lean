import ScoreSieve.Pattern

namespace ScoreSieve

namespace Group

def mentions (group : Group) (a b : Mod) : Bool :=
  a ∈ group.mods || b ∈ group.mods

def demands (group : Group) (a b : Mod) : Bool :=
  group.kind = .required && group.mentions a b

/-- Holds if the group gives a choice that names one of `a` and `b` but not the other. -/
def favours (group : Group) (a b : Mod) : Bool :=
  (group.kind = .optional || group.kind = .exclusive) &&
    (decide (a ∈ group.mods) ^^ decide (b ∈ group.mods))

/-- Exchanges `a` and `b` in a group that names one of them. -/
def exchange (group : Group) (a b : Mod) : Group :=
  if a ∈ group.mods then group.swap a b else group.swap b a

/-- The group without `a` and `b` if it requires one of them, with both if it prohibits one. -/
def merge (group : Group) (a b : Mod) : Group :=
  if group.demands a b then group.without [a, b]
  else if group.kind = .prohibited ∧ group.mentions a b then (group.add a).add b
  else group

end Group

namespace Pattern

/-- The pattern that makes no difference between requiring, or prohibiting, `a` and `b`. Each
required group that named one of them adds a choice of the two at the end. -/
def merge (pattern : Pattern) (a b : Mod) : Pattern :=
  { groups :=
      pattern.groups.map (·.merge a b) ++
      (pattern.groups.filter (·.demands a b)).map fun _ => Group.ofMods .exclusive [a, b]
    inverted := pattern.inverted }

/-- The pattern with `a` and `b` exchanged in each group that favours one of them, if any does. -/
def counterpart? (pattern : Pattern) (a b : Mod) : Option Pattern :=
  if pattern.groups.any (·.favours a b) then
    some { pattern with
      groups := pattern.groups.map fun group =>
        if group.favours a b then group.exchange a b else group }
  else none

end Pattern

/-- Treats `a` and `b` as synonyms; the counterparts follow the patterns of the filter. -/
def Filter.interchange (filter : Filter) (a b : Mod) : Filter :=
  if a = b then filter else
    let merged := filter.patterns.map (·.merge a b)
    { filter with patterns := merged ++ merged.filterMap (·.counterpart? a b) }

end ScoreSieve
