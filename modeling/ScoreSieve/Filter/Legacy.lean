import ScoreSieve.Pattern

namespace ScoreSieve

/-- Permits a modifier beside what a constrained pattern asks for. -/
def Pattern.permit (pattern : Pattern) (mod : Mod) : Pattern :=
  if pattern.isConstrained then
    { pattern with groups := pattern.groups ++ [Group.ofMods .optional [mod]] }
  else pattern

/-- Permits `legacy` in every pattern. In `+NM` there is nothing it could stand beside, so that
filter gets it as an alternative. -/
def Filter.allowLegacy (filter : Filter) (legacy : Mod) : Filter :=
  if filter.isNoModOnly then
    { filter with patterns := filter.patterns ++ [⟨[Group.ofMods .required [legacy]], false⟩] }
  else { filter with patterns := filter.patterns.map (·.permit legacy) }

end ScoreSieve
