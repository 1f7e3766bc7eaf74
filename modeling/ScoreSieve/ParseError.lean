namespace ScoreSieve

/-- Why a filter, a candidate or a code is refused. -/
inductive ParseError
  /-- The trimmed text starts with neither sign. -/
  | missingSign (text : List Char)
  /-- The pattern at this place, counted from zero, has no group. -/
  | emptyPattern (position : Nat)
  /-- A text that should be a run of two-letter codes is not. -/
  | invalidCode (text : List Char)
  /-- The brackets of this pattern body do not pair up around non-empty runs. -/
  | invalidGroup (body : List Char)
  deriving DecidableEq, Repr

def ParseError.message : ParseError → String
  | .missingSign text =>
    "Filter expression must start with '+' or '-', got: '" ++ String.ofList text ++ "'"
  | .emptyPattern position => "Empty pattern at position " ++ toString position
  | .invalidCode text =>
    "Invalid modifier code: '" ++ String.ofList text ++ "'. Codes are two letters, e.g. HD or DT"
  | .invalidGroup body => "Unbalanced or empty group in pattern: '" ++ String.ofList body ++ "'"

end ScoreSieve
