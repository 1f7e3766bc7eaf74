namespace ScoreSieve

/-- A JSON value. An object keeps its members in the order of writing, repeated names included. -/
inductive Json
  | null
  | boolean (value : Bool)
  | integer (value : Int)
  | decimal (text : String)
  | string (text : String)
  | array (items : List Json)
  | object (members : List (String × Json))
  deriving Repr

namespace Json

def ofNat (n : Nat) : Json :=
  integer n

/-- The value inside an option; `null` stands for none. -/
def ofOption {α : Type} (json : α → Json) : Option α → Json
  | none => null
  | some value => json value

/-- The four hexadecimal digits of a number below 2^16. -/
def hexDigits (n : Nat) : String :=
  String.ofList ([4096, 256, 16, 1].map fun place => Nat.digitChar (n / place % 16))

/-- A character inside quotes. Only quotes, backslashes and control characters are escaped. -/
def escape (c : Char) : String :=
  match c with
  | '"' => "\\\""
  | '\\' => "\\\\"
  | '\x08' => "\\b"
  | '\x0c' => "\\f"
  | '\n' => "\\n"
  | '\r' => "\\r"
  | '\t' => "\\t"
  | _ => if c.toNat < 0x20 then "\\u" ++ hexDigits c.toNat else c.toString

def quote (text : String) : String :=
  "\"" ++ String.join (text.toList.map escape) ++ "\""

/-- The start of a line at a nesting depth: two spaces a level. -/
def indent (depth : Nat) : String :=
  String.ofList (List.replicate (2 * depth) ' ')

/-- Texts in brackets, each on a line of its own. -/
def enclose (depth : Nat) (opening closing : String) (texts : List String) : String :=
  if texts.isEmpty then opening ++ closing
  else
    opening ++ "\n" ++ ",\n".intercalate (texts.map (indent (depth + 1) ++ ·)) ++ "\n" ++
      indent depth ++ closing

mutual

/-- The text of a value that starts on a line at this depth. -/
def pretty (depth : Nat) : Json → String
  | null => "null"
  | boolean value => if value then "true" else "false"
  | integer value => toString value
  | decimal text => text
  | string text => quote text
  | array items => enclose depth "[" "]" (itemTexts (depth + 1) items)
  | object members => enclose depth "\x7b" "\x7d" (memberTexts (depth + 1) members)

def itemTexts (depth : Nat) : List Json → List String
  | [] => []
  | item :: items => pretty depth item :: itemTexts depth items

def memberTexts (depth : Nat) : List (String × Json) → List String
  | [] => []
  | (name, value) :: members =>
    (quote name ++ ": " ++ pretty depth value) :: memberTexts depth members

end

def text (json : Json) : String :=
  json.pretty 0

end Json

end ScoreSieve
