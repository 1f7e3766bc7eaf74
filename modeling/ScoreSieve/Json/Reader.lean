import ScoreSieve.Json.Token
import ScoreSieve.Json.Value

namespace ScoreSieve.Json

open Token

def memberName? : Token → Option String
  | .string text => some text
  | .name text _ => some text
  | _ => none

/-- The value of a token that is a value by itself. Words have to be written without escapes. -/
def scalar? : Token → Option Json
  | .string text => some (.string text)
  | .integer value => some (.integer value)
  | .decimal text => some (.decimal text)
  | .name "null" true => some .null
  | .name "true" true => some (.boolean true)
  | .name "false" true => some (.boolean false)
  | .name "NaN" true => some (.decimal "NaN")
  | .name "Infinity" true => some (.decimal "Infinity")
  | _ => none

mutual

def value? (tokens : List Token) : Option (Reading Token Json tokens) :=
  match tokens with
  | [] => none
  | .mark '[' :: rest => (items? rest).map fun items => (items.map .array).behind _
  | .mark '{' :: rest => (members? rest).map fun members => (members.map .object).behind _
  | token :: rest => (scalar? token).map fun value => .ofHead value rest
termination_by (tokens.length, 0)

/-- Reads items up to the bracket that closes the array. -/
def items? (tokens : List Token) : Option (Reading Token (List Json) tokens) :=
  match tokens with
  | .mark ']' :: rest => some (.ofHead [] rest)
  | tokens => do
    let first ← value? tokens
    have shorter := first.shorter
    match rest : first.rest with
    | .mark ']' :: after =>
      return ⟨[first.value], after, by simp only [rest, List.length_cons] at shorter; omega⟩
    | .mark ',' :: after =>
      let others ← items? after
      return (others.map (first.value :: ·)).within
        (by simp only [rest, List.length_cons] at shorter; omega)
    | _ => none
termination_by (tokens.length, 1)
decreasing_by
  · exact Prod.Lex.right _ (by omega)
  · exact Prod.Lex.left _ _ (by simp only [rest, List.length_cons] at shorter; omega)

/-- Reads members up to the brace that closes the object. -/
def members? (tokens : List Token) : Option (Reading Token (List (String × Json)) tokens) :=
  match tokens with
  | .mark '}' :: rest => some (.ofHead [] rest)
  | token :: .mark ':' :: tokens => do
    let name ← memberName? token
    let value ← value? tokens
    have shorter := value.shorter
    match rest : value.rest with
    | .mark '}' :: after =>
      return ⟨[(name, value.value)], after, by
        simp only [rest, List.length_cons] at shorter ⊢; omega⟩
    | .mark ',' :: after =>
      let others ← members? after
      return (others.map ((name, value.value) :: ·)).within
        (by simp only [rest, List.length_cons] at shorter ⊢; omega)
    | _ => none
  | _ => none
termination_by (tokens.length, 1)
decreasing_by
  · exact Prod.Lex.left _ _ (by simp only [List.length_cons]; omega)
  · exact Prod.Lex.left _ _ (by simp only [rest, List.length_cons] at shorter ⊢; omega)

end

/-- Reads a whole text as one value. A comma may stand before a closing bracket or brace. -/
def ofText? (text : List Char) : Option Json := do
  let tokens ← Token.ofText? text
  let value ← value? tokens
  if value.rest.isEmpty then return value.value else none

end ScoreSieve.Json
