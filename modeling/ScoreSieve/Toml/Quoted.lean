import ScoreSieve.Text.Reading

namespace ScoreSieve.Toml

/-- Holds of what may stand in quotes and in comments: tabs, and all but control characters. -/
def isPrintable (c : Char) : Bool :=
  c = '\t' || (0x20 ≤ c.toNat && c.toNat ≠ 0x7F)

/-- Reads the character that follows a backslash. -/
def escape? : (text : List Char) → Option (Reading Char Char text)
  | 'b' :: rest => some (.ofHead '\x08' rest)
  | 't' :: rest => some (.ofHead '\t' rest)
  | 'n' :: rest => some (.ofHead '\n' rest)
  | 'f' :: rest => some (.ofHead '\x0c' rest)
  | 'r' :: rest => some (.ofHead '\r' rest)
  | '"' :: rest => some (.ofHead '"' rest)
  | '\\' :: rest => some (.ofHead '\\' rest)
  | 'u' :: rest => do
    let code ← Text.hexadecimal? 4 rest
    let c ← Text.scalar? code.value
    return (code.map fun _ => c).behind 'u'
  | 'U' :: rest => do
    let code ← Text.hexadecimal? 8 rest
    let c ← Text.scalar? code.value
    return (code.map fun _ => c).behind 'U'
  | _ => none

def basic? (text : List Char) : Option (Reading Char (List Char) text) :=
  match text with
  | [] => none
  | '"' :: rest => some (.ofHead [] rest)
  | '\\' :: rest => do
    let escaped ← escape? rest
    have := escaped.shorter
    let tail ← basic? escaped.rest
    return ((escaped.andThen tail).map (escaped.value :: ·)).behind '\\'
  | c :: rest =>
    if isPrintable c then (basic? rest).map fun tail => (tail.map (c :: ·)).behind c else none
termination_by text.length

def literal? : (text : List Char) → Option (Reading Char (List Char) text)
  | [] => none
  | '\'' :: rest => some (.ofHead [] rest)
  | c :: rest =>
    if isPrintable c then (literal? rest).map fun tail => (tail.map (c :: ·)).behind c else none

def dropLineEnd : List Char → List Char
  | '\n' :: rest => rest
  | '\r' :: '\n' :: rest => rest
  | rest => rest

theorem dropLineEnd_length_le (text : List Char) : (dropLineEnd text).length ≤ text.length := by
  fun_cases dropLineEnd text with
  | case1 => exact Nat.le_succ _
  | case2 => exact Nat.le_succ_of_le (Nat.le_succ _)
  | case3 => exact Nat.le_refl _

def isSpace (c : Char) : Bool :=
  c = ' ' || c = '\t'

/-- Removes spaces and line ends from the start of a text. -/
def dropLayout : List Char → List Char
  | '\n' :: rest => dropLayout rest
  | '\r' :: '\n' :: rest => dropLayout rest
  | c :: rest => if isSpace c then dropLayout rest else c :: rest
  | [] => []

theorem dropLayout_length_le (text : List Char) : (dropLayout text).length ≤ text.length := by
  fun_induction dropLayout text with
  | case1 rest ih => exact Nat.le_succ_of_le ih
  | case2 rest ih => exact Nat.le_succ_of_le (Nat.le_succ_of_le ih)
  | case3 c rest _ _ _ ih => exact Nat.le_succ_of_le ih
  | case4 => exact Nat.le_refl _
  | case5 => exact Nat.le_refl _

/-- What follows a backslash at the end of a line, without the layout before the next text. -/
def continued? (text : List Char) : Option (List Char) :=
  match text.dropWhile isSpace with
  | '\n' :: rest => some (dropLayout rest)
  | '\r' :: '\n' :: rest => some (dropLayout rest)
  | _ => none

theorem length_le_of_continued? {text rest : List Char} (next : continued? text = some rest) :
    rest.length ≤ text.length := by
  have bound := Text.dropWhile_length_le isSpace text
  unfold continued? at next
  split at next
  · next tail line =>
    have layout := dropLayout_length_le tail
    simp only [line, List.length_cons, ← Option.some.inj next] at bound ⊢
    omega
  · next tail line =>
    have layout := dropLayout_length_le tail
    simp only [line, List.length_cons, ← Option.some.inj next] at bound ⊢
    omega
  · simp at next

/-- Reads a string on several lines up to three closing quotes, before which there may be two more.
Line ends become newlines, and only in a basic string is a backslash special. -/
def lines? (quote : Char) (escapes : Bool) (text : List Char) :
    Option (Reading Char (List Char) text) :=
  match text with
  | [] => none
  | '\r' :: '\n' :: rest =>
    (lines? quote escapes rest).map fun tail => ((tail.map ('\n' :: ·)).behind '\n').behind '\r'
  | '\n' :: rest => (lines? quote escapes rest).map fun tail => (tail.map ('\n' :: ·)).behind '\n'
  | c :: rest =>
    if c = quote then
      let run := rest.takeWhile (· = quote)
      have bound := Text.dropWhile_length_le (· = quote) rest
      if run.length < 2 then
        (lines? quote escapes (rest.dropWhile (· = quote))).map fun tail =>
          (tail.map (c :: run ++ ·)).within (Nat.le_succ_of_le bound)
      else if run.length < 5 then
        some ⟨run.drop 2, rest.dropWhile (· = quote), Nat.lt_succ_of_le bound⟩
      else none
    else if escapes ∧ c = '\\' then
      match next : continued? rest with
      | some later =>
        have bound := length_le_of_continued? next
        (lines? quote escapes later).map (·.within (Nat.le_succ_of_le bound))
      | none => do
        let escaped ← escape? rest
        have := escaped.shorter
        let tail ← lines? quote escapes escaped.rest
        return ((escaped.andThen tail).map (escaped.value :: ·)).behind c
    else if isPrintable c then
      (lines? quote escapes rest).map fun tail => (tail.map (c :: ·)).behind c
    else none
termination_by text.length
decreasing_by all_goals simp only [List.length_cons] at *; omega

def string? (quote : Char) (text : List Char) : Option (Reading Char (List Char) text) :=
  match text with
  | first :: second :: rest =>
    if first = quote ∧ second = quote then
      (lines? quote (quote = '"') (dropLineEnd rest)).map fun tail =>
        ((tail.within (dropLineEnd_length_le rest)).behind second).behind first
    else if quote = '"' then basic? (first :: second :: rest)
    else literal? (first :: second :: rest)
  | text => if quote = '"' then basic? text else literal? text

end ScoreSieve.Toml
