import ScoreSieve.Toml.Value

namespace ScoreSieve.Toml

/-- A key of parts between dots. -/
structure Key where
  parents : List String
  name : String
  deriving DecidableEq, Repr

/-- What made a table, which decides how it may be extended. A header fixes it, and keys with dots
extend only what such keys have made. -/
inductive Origin
  /-- The header of the table, or of an element of an array of tables. -/
  | header
  /-- A header that leads through the table to another. -/
  | passage
  /-- A key with dots that leads through the table. -/
  | dotted
  deriving DecidableEq, Repr

/-- The tables of a document while its statements are added. -/
inductive Node
  | value (value : Toml)
  | table (origin : Origin) (entries : List (String × Node))
  /-- An array of tables, to which headers may add elements. -/
  | elements (tables : List (List (String × Node)))

namespace Node

mutual

def toToml : Node → Toml
  | value toml => toml
  | table _ entries => .table (entriesToToml entries)
  | elements tables => .array (tablesToToml tables)

def entriesToToml : List (String × Node) → List (String × Toml)
  | [] => []
  | (name, node) :: entries => (name, toToml node) :: entriesToToml entries

def tablesToToml : List (List (String × Node)) → List Toml
  | [] => []
  | entries :: tables => .table (entriesToToml entries) :: tablesToToml tables

end

/-- Puts another node in the place of the one with a name. -/
def replace (name : String) (node : Node) (entries : List (String × Node)) : List (String × Node) :=
  entries.map fun entry => if entry.1 = name then (name, node) else entry

/-- Changes the table that a path leads to from a table of the given origin. Missing tables on the
path get the origin `made`; an array of tables stands for its last element. -/
def update (made : Origin) (change : Origin → List (String × Node) → Option (List (String × Node)))
    (origin : Origin) : List String → List (String × Node) → Option (List (String × Node))
  | [], entries => change origin entries
  | name :: path, entries =>
    match entries.lookup name with
    | none => do
      let inner ← update made change made path []
      return entries ++ [(name, table made inner)]
    | some (value _) => none
    | some (table origin inner) => do
      if made = .dotted ∧ origin = .header then none
      let inner ← update made change origin path inner
      return replace name (table origin inner) entries
    | some (elements tables) => do
      let last ← update made change .header path (← tables.getLast?)
      return replace name (elements (tables.dropLast ++ [last])) entries

/-- Adds a value at a key that must be new. -/
def insert (entries : List (String × Node)) (key : Key) (toml : Toml) :
    Option (List (String × Node)) :=
  let add (origin : Origin) (entries : List (String × Node)) : Option (List (String × Node)) :=
    if (key.parents ≠ [] ∧ origin ≠ .dotted) ∨ (entries.lookup key.name).isSome then none
    else some (entries ++ [(key.name, value toml)])
  update .dotted add .header key.parents entries

def insertAll (entries : List (String × Node)) (pairs : List (Key × Toml)) :
    Option (List (String × Node)) :=
  pairs.foldlM (fun entries (key, toml) => insert entries key toml) entries

/-- Adds the table of a header. A table that headers have led through already keeps its entries and
moves to the end. -/
def addTable (entries : List (String × Node)) (key : Key) (pairs : List (Key × Toml)) :
    Option (List (String × Node)) :=
  let add (_ : Origin) (entries : List (String × Node)) : Option (List (String × Node)) := do
    let inner ←
      match entries.lookup key.name with
      | none => some []
      | some (table .passage inner) => some inner
      | some _ => none
    return entries.filter (·.1 ≠ key.name) ++ [(key.name, table .header (← insertAll inner pairs))]
  update .passage add .header key.parents entries

def addElement (entries : List (String × Node)) (key : Key) (pairs : List (Key × Toml)) :
    Option (List (String × Node)) :=
  let add (_ : Origin) (entries : List (String × Node)) : Option (List (String × Node)) := do
    let inner ← insertAll [] pairs
    match entries.lookup key.name with
    | none => return entries ++ [(key.name, elements [inner])]
    | some (elements tables) => return replace key.name (elements (tables ++ [inner])) entries
    | some _ => none
  update .passage add .header key.parents entries

end Node

def ofPairs? (pairs : List (Key × Toml)) : Option Toml :=
  (Node.insertAll [] pairs).map fun entries => .table (Node.entriesToToml entries)

end ScoreSieve.Toml
