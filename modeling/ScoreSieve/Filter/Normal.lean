import ScoreSieve.Pattern

namespace ScoreSieve

namespace Pattern

/-- The exclusive groups without the prohibited modifiers. -/
def choices (pattern : Pattern) : List Group :=
  (pattern.groupsOf .exclusive).map (·.without (pattern.modsOf .prohibited))

/-- What the pattern demands: its required modifiers, then those of exclusive groups in which a
single modifier is left. -/
def demands (pattern : Pattern) : List Mod :=
  pattern.modsOf .required ++
    (pattern.choices.filter (·.mods.length == 1)).flatMap Group.mods

/-- The pattern in normal form. An exclusive group that is prohibited as a whole is dropped, and so
is an optional group that is prohibited in part. -/
def normalize (pattern : Pattern) : Pattern :=
  let prohibited := pattern.modsOf .prohibited
  let required := pattern.demands
  { groups :=
      (if required.isEmpty then [] else [Group.ofMods .required required]) ++
      (pattern.groupsOf .optional).filter (fun group => group.mods.all (· ∉ prohibited)) ++
      pattern.choices.filter (1 < ·.mods.length) ++
      (if prohibited.isEmpty then [] else [Group.ofMods .prohibited prohibited])
    inverted := pattern.inverted }

end Pattern

end ScoreSieve
