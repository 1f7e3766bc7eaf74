import ScoreSieve.Filter.Legacy
import ScoreSieve.Filter.Reader
import ScoreSieve.Filter.Synonym

namespace ScoreSieve

/-- Which modifiers count as synonyms, and whether a legacy modifier is let in. -/
structure Rules where
  allowLegacy : Bool := false
  legacyMod : Mod := Mod.classic
  /-- Pairs of synonyms in the order in which they are applied. -/
  synonyms : List (Mod × Mod) := [(⟨['D', 'T']⟩, ⟨['N', 'C']⟩), (⟨['H', 'T']⟩, ⟨['D', 'C']⟩)]
  deriving DecidableEq, Repr

/-- Applies the pairs one after the other, then the legacy rule. -/
def Rules.apply (rules : Rules) (filter : Filter) : Filter :=
  let merged := rules.synonyms.foldl (fun filter (a, b) => filter.interchange a b) filter
  if rules.allowLegacy then merged.allowLegacy rules.legacyMod else merged

/-- A named set of rules for one ruleset and its modifiers. -/
structure Profile where
  name : String := "base"
  rules : Rules := {}
  /-- The modifiers that the ruleset has; a filter that names another one is worth a warning. -/
  knownMods : List Mod :=
    ["EZ", "NF", "HT", "DC", "HR", "SD", "PF", "DT", "NC", "HD", "FL", "RX", "AP", "SO", "TD", "CL",
      "MR", "DA"].map (Mod.ofText ·.toList)
  deriving DecidableEq, Repr

def Profile.base : Profile :=
  {}

/-- The expression with the rules of the profile applied to its filter, if that is asked for. -/
def Profile.adapt (profile : Profile) (expression : Expression) (applyRules : Bool) : Expression :=
  if applyRules then { expression with filter := profile.rules.apply expression.filter }
  else expression

/-- Reads an expression and adapts it to the profile. -/
def Profile.build (profile : Profile) (text : List Char) (applyRules : Bool) :
    Except ParseError Expression :=
  (Expression.parse text).map (profile.adapt · applyRules)

end ScoreSieve
