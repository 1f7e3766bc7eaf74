import ScoreSieve.Pattern

namespace ScoreSieve

/-- The brackets around the codes of a group; required groups are bare. -/
def Kind.brackets? : Kind → Option (Char × Char)
  | .required => none
  | .optional => some ('(', ')')
  | .exclusive => some ('[', ']')
  | .prohibited => some ('{', '}')

/-- The codes of a group between the brackets that tell its kind. -/
def Group.text (group : Group) : List Char :=
  match group.kind.brackets? with
  | none => Mod.concat group.mods
  | some (opening, closing) => opening :: Mod.concat group.mods ++ [closing]

def Pattern.text (pattern : Pattern) : List Char :=
  (if pattern.inverted then ['^'] else []) ++ pattern.groups.flatMap Group.text

def Filter.text (filter : Filter) : List Char :=
  (if filter.inverted then '-' else '+') :: [','].intercalate (filter.patterns.map Pattern.text)

/-- The written form: a sign, patterns between commas, and the strict mark at the end. -/
def Expression.text (expression : Expression) : List Char :=
  expression.filter.text ++ if expression.strict then ['!'] else []

end ScoreSieve
