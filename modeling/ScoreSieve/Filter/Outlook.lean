import ScoreSieve.Filter.Normal

namespace ScoreSieve

/-- What the shape of a filter says about its verdicts before any candidate is seen. -/
inductive Outlook
  | undecided
  | always (verdict : Bool)
  deriving DecidableEq, Repr

namespace Outlook

/-- The outlook of a filter whose verdicts are negated if `inverted` holds. -/
def invertedIf (inverted : Bool) : Outlook → Outlook
  | undecided => undecided
  | always verdict => always (verdict ^^ inverted)

def verdict? : Outlook → Option Bool
  | undecided => none
  | always verdict => some verdict

end Outlook

/-- The outlook of groups in normal form. Optional groups alone refuse nothing, and what is both
required and prohibited can never be met. -/
def outlookOf (normal : Pattern) : Outlook :=
  if normal.groups.all (·.kind = .optional) then .always true
  else if (normal.modsOf .required).any (· ∈ normal.modsOf .prohibited) then .always false
  else .undecided

namespace Pattern

def outlook (pattern : Pattern) : Outlook :=
  (outlookOf pattern.normalize).invertedIf pattern.inverted

def isUnrestricted (pattern : Pattern) : Bool :=
  pattern.outlook = .always true

end Pattern

namespace Filter

/-- The outlook of alternatives; a filter without patterns refuses nothing. -/
def outlook (filter : Filter) : Outlook :=
  let alternatives : Outlook :=
    if filter.patterns.isEmpty || filter.patterns.any Pattern.isUnrestricted then .always true
    else if filter.patterns.all (·.outlook = .always false) then .always false
    else .undecided
  alternatives.invertedIf filter.inverted

/-- Holds if the filter is known to match every candidate. -/
def isUnrestricted (filter : Filter) : Bool :=
  filter.outlook = .always true

end Filter

end ScoreSieve
