import ScoreSieve.Toml.Quoted
import ScoreSieve.Toml.Scalar
import ScoreSieve.Toml.Tree

namespace ScoreSieve.Toml

/-- Keys have fewer parts than this, and arrays and inline tables are nested less deeply. -/
def nestingLimit : Nat :=
  80

def isBareKeyPart (c : Char) : Bool :=
  c.isAlphanum || c = '_' || c = '-'

def keyPart? : (text : List Char) → Option (Reading Char String text)
  | [] => none
  | '"' :: rest => (basic? rest).map fun name => (name.map String.ofList).behind '"'
  | '\'' :: rest => (literal? rest).map fun name => (name.map String.ofList).behind '\''
  | c :: rest =>
    if isBareKeyPart c then
      some ⟨String.ofList (c :: rest.takeWhile isBareKeyPart), rest.dropWhile isBareKeyPart,
        Nat.lt_succ_of_le (Text.dropWhile_length_le isBareKeyPart rest)⟩
    else none

def skipSpace {α : Type} {text : List Char} (reading : Reading Char α text) : Reading Char α text :=
  ⟨reading.value, reading.rest.dropWhile isSpace,
    Nat.lt_of_le_of_lt (Text.dropWhile_length_le isSpace reading.rest) reading.shorter⟩

def keyParts? (text : List Char) : Option (Reading Char Key text) := do
  let part ← keyPart? (text.dropWhile isSpace)
  let name := (skipSpace part).within (Text.dropWhile_length_le isSpace text)
  match dot : name.rest with
  | '.' :: rest =>
    let key ← keyParts? rest
    return name.andThenPast dot (key.map fun key => ⟨name.value :: key.parents, key.name⟩)
  | _ => return name.map fun name => ⟨[], name⟩
termination_by text.length
decreasing_by exact name.shorter_rest dot

def key? (text : List Char) : Option (Reading Char Key text) := do
  let key ← keyParts? text
  if key.value.parents.length + 1 < nestingLimit then return key else none

/-- Removes the spaces, the line ends and the comments at the start of a text. -/
def dropTrivia (text : List Char) : List Char :=
  match text with
  | '\n' :: rest => dropTrivia rest
  | '\r' :: '\n' :: rest => dropTrivia rest
  | '#' :: rest =>
    have := Text.dropWhile_length_le isPrintable rest
    dropTrivia (rest.dropWhile isPrintable)
  | c :: rest => if isSpace c then dropTrivia rest else c :: rest
  | [] => []
termination_by text.length
decreasing_by all_goals simp only [List.length_cons] at *; omega

theorem dropTrivia_length_le (text : List Char) : (dropTrivia text).length ≤ text.length := by
  fun_induction dropTrivia text with
  | case1 rest ih => exact Nat.le_succ_of_le ih
  | case2 rest ih => exact Nat.le_succ_of_le (Nat.le_succ_of_le ih)
  | case3 rest bound ih => exact Nat.le_succ_of_le (Nat.le_trans ih bound)
  | case4 c rest _ _ _ _ ih => exact Nat.le_succ_of_le ih
  | case5 => exact Nat.le_refl _
  | case6 => exact Nat.le_refl _

mutual

/-- Reads a value in which arrays and inline tables are nested at most `depth` times. -/
def value? (depth : Nat) (text : List Char) : Option (Reading Char Toml text) :=
  match text with
  | [] => none
  | '[' :: rest =>
    if depth = 0 then none
    else (items? (depth - 1) rest).map fun items => (items.map .array).behind '['
  | '{' :: rest =>
    if depth = 0 then none
    else do
      have bound := Text.dropWhile_length_le isSpace rest
      match empty : rest.dropWhile isSpace with
      | '}' :: after =>
        return ⟨.table [], after, by simp only [empty, List.length_cons] at bound ⊢; omega⟩
      | _ =>
        let pairs ← pairs? (depth - 1) rest
        let table ← ofPairs? pairs.value
        return (pairs.map fun _ => table).behind '{'
  | c :: rest =>
    if c = '"' ∨ c = '\'' then
      (string? c rest).map fun text => (text.map (.string <| String.ofList ·)).behind c
    else word? c rest
termination_by (text.length, 0)

/-- Reads items up to the bracket that closes the array, with or without a comma before it. -/
def items? (depth : Nat) (text : List Char) : Option (Reading Char (List Toml) text) :=
  have bound := dropTrivia_length_le text
  match start : dropTrivia text with
  | ']' :: rest => some ⟨[], rest, by simp only [start, List.length_cons] at bound; omega⟩
  | _ => do
    let first ← value? depth (dropTrivia text)
    have shorter := first.shorter
    have trivia := dropTrivia_length_le first.rest
    match after : dropTrivia first.rest with
    | ']' :: rest =>
      return ⟨[first.value], rest, by simp only [after, List.length_cons] at trivia; omega⟩
    | ',' :: rest =>
      let others ← items? depth rest
      return (others.map (first.value :: ·)).within
        (by simp only [after, List.length_cons] at trivia; omega)
    | _ => none
termination_by (text.length, 1)
decreasing_by
  · rcases Nat.lt_or_eq_of_le bound with less | same
    · exact Prod.Lex.left _ _ less
    · rw [same]; exact Prod.Lex.right _ (by omega)
  · exact Prod.Lex.left _ _ (by simp only [after, List.length_cons] at trivia; omega)

/-- Reads one pair or more up to the brace that closes the inline table. -/
def pairs? (depth : Nat) (text : List Char) : Option (Reading Char (List (Key × Toml)) text) := do
  let key ← key? text
  have keyShorter := key.shorter
  match equals : key.rest with
  | '=' :: rest =>
    have bound := Text.dropWhile_length_le isSpace rest
    let value ← value? depth (rest.dropWhile isSpace)
    have shorter := (skipSpace value).shorter
    match after : (skipSpace value).rest with
    | '}' :: rest =>
      return ⟨[(key.value, value.value)], rest, by
        simp only [equals, after, List.length_cons] at keyShorter shorter; omega⟩
    | ',' :: rest =>
      let others ← pairs? depth rest
      return (others.map ((key.value, value.value) :: ·)).within
        (by simp only [equals, after, List.length_cons] at keyShorter shorter; omega)
    | _ => none
  | _ => none
termination_by (text.length, 1)
decreasing_by
  · exact Prod.Lex.left _ _ (by simp only [equals, List.length_cons] at keyShorter; omega)
  · exact Prod.Lex.left _ _
      (by simp only [equals, after, List.length_cons] at keyShorter shorter; omega)

end

/-- One line of a document: the header of a table, the header of an element, or a pair. -/
inductive Statement
  | table (key : Key)
  | element (key : Key)
  | pair (key : Key) (value : Toml)

def statement? (text : List Char) : Option (Reading Char Statement text) :=
  match text with
  | '[' :: '[' :: rest => do
    let key ← key? rest
    have shorter := key.shorter
    match closed : key.rest with
    | ']' :: ']' :: after =>
      return ⟨.element key.value, after, by
        simp only [closed, List.length_cons] at shorter ⊢; omega⟩
    | _ => none
  | '[' :: rest => do
    let key ← key? rest
    have shorter := key.shorter
    match closed : key.rest with
    | ']' :: after =>
      return ⟨.table key.value, after, by
        simp only [closed, List.length_cons] at shorter ⊢; omega⟩
    | _ => none
  | text => do
    let key ← key? text
    have shorter := key.shorter
    match after : key.rest with
    | '=' :: rest =>
      have bound := Text.dropWhile_length_le isSpace rest
      let value ← value? (nestingLimit - 1) (rest.dropWhile isSpace)
      return (value.map (.pair key.value ·)).within
        (by simp only [after, List.length_cons] at shorter; omega)
    | _ => none

/-- What follows the end of a line on which at most a comment is left. -/
def lineEnd? (text : List Char) : Option (List Char) :=
  let rest :=
    match text.dropWhile isSpace with
    | '#' :: rest => rest.dropWhile isPrintable
    | rest => rest
  match rest with
  | [] => some []
  | '\n' :: rest => some rest
  | '\r' :: '\n' :: rest => some rest
  | _ => none

/-- A line end takes up something of the text, unless the text ends there. -/
theorem lineEnd?_shorter {text rest : List Char} (next : lineEnd? text = some rest) :
    rest.length < text.length ∨ rest = [] := by
  have bound := Text.dropWhile_length_le isSpace text
  have comment : (match text.dropWhile isSpace with
      | '#' :: rest => rest.dropWhile isPrintable
      | rest => rest).length ≤ (text.dropWhile isSpace).length := by
    split
    · next rest line =>
      exact Nat.le_trans (Text.dropWhile_length_le isPrintable rest) (by simp [line])
    · exact Nat.le_refl _
  simp only [lineEnd?] at next
  split at next
  · exact Or.inr (Option.some.inj next).symm
  · next tail line =>
    simp only [line, List.length_cons, ← Option.some.inj next] at comment ⊢
    omega
  · next tail line =>
    simp only [line, List.length_cons, ← Option.some.inj next] at comment ⊢
    omega
  · simp at next

def statements? (text : List Char) : Option (List Statement) :=
  if empty : text = [] then some [] else
    have _positive := List.length_pos_iff.mpr empty
    match _blank : lineEnd? text with
    | some rest => statements? rest
    | none => do
      let statement ← statement? (text.dropWhile isSpace)
      have _shorter := statement.shorter
      have _bound := Text.dropWhile_length_le isSpace text
      match _line : lineEnd? statement.rest with
      | some rest => return statement.value :: (← statements? rest)
      | none => none
termination_by text.length
decreasing_by
  · rcases lineEnd?_shorter _blank with less | rfl
    · exact less
    · exact _positive
  · rcases lineEnd?_shorter _line with less | rfl
    · omega
    · exact _positive

/-- The pairs in front of the first header, and the statements from there on. -/
def leadingPairs : List Statement → List (Key × Toml) × List Statement
  | .pair key value :: rest => ((key, value) :: (leadingPairs rest).1, (leadingPairs rest).2)
  | rest => ([], rest)

theorem leadingPairs_length_le (statements : List Statement) :
    (leadingPairs statements).2.length ≤ statements.length := by
  fun_induction leadingPairs statements with
  | case1 key value rest ih => exact Nat.le_succ_of_le ih
  | case2 => exact Nat.le_refl _

/-- Adds the tables of statements that start with a header. -/
def addSections? (entries : List (String × Node)) (statements : List Statement) :
    Option (List (String × Node)) :=
  match statements with
  | [] => some entries
  | .table key :: rest => do
    have := leadingPairs_length_le rest
    addSections? (← Node.addTable entries key (leadingPairs rest).1) (leadingPairs rest).2
  | .element key :: rest => do
    have := leadingPairs_length_le rest
    addSections? (← Node.addElement entries key (leadingPairs rest).1) (leadingPairs rest).2
  | .pair _ _ :: _ => none
termination_by statements.length

/-- The entries of a document, which may start with a byte order mark. -/
def ofText? (text : List Char) : Option (List (String × Toml)) := do
  let text :=
    match text with
    | '\ufeff' :: rest => rest
    | text => text
  let statements ← statements? text
  let entries ← Node.insertAll [] (leadingPairs statements).1
  let entries ← addSections? entries (leadingPairs statements).2
  return Node.entriesToToml entries

end ScoreSieve.Toml
