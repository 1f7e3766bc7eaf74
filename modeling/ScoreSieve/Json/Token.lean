import ScoreSieve.Text.Letter
import ScoreSieve.Text.Reading

namespace ScoreSieve.Json

/-- The tokens of JSON text in its relaxed form, with comments skipped, names without quotes,
strings in either kind of quotes, and signed, hexadecimal and open-ended numbers. -/
inductive Token
  /-- A bracket, a brace, a colon or a comma. -/
  | mark (c : Char)
  | string (text : String)
  | integer (value : Int)
  | decimal (text : String)
  /-- A word without quotes; it is plain if it holds no escape. -/
  | name (text : String) (plain : Bool)
  deriving DecidableEq, Repr

namespace Token

def isLineEnd (c : Char) : Bool :=
  c ∈ ['\n', '\r', '\u2028', '\u2029']

/-- The space characters between tokens, line ends apart. -/
def isSpace (c : Char) : Bool :=
  c ∈ ['\t', '\x0b', '\x0c', ' ', '\u00a0', '\u1680', '\u202f', '\u205f', '\u3000', '\ufeff'] ||
    ('\u2000' ≤ c && c ≤ '\u200a')

def isMark (c : Char) : Bool :=
  c ∈ ['{', '}', '[', ']', ':', ',']

/-- Reads to the end of a comment that stars close. -/
def comment? : (text : List Char) → Option (Reading Char Unit text)
  | '*' :: '/' :: rest => some ⟨(), rest, by simp only [List.length_cons]; omega⟩
  | c :: rest => (comment? rest).map (·.behind c)
  | [] => none

def ofSurrogates? (high low : Nat) : Option Char :=
  if 0xDC00 ≤ low ∧ low < 0xE000 then
    Text.scalar? (0x10000 + (high - 0xD800) * 0x400 + (low - 0xDC00))
  else none

/-- Reads the four digits after `\u`, and a second escape where they are half of a pair. -/
def unicodeEscape? (text : List Char) : Option (Reading Char (List Char) text) := do
  let high ← Text.hexadecimal? 4 text
  if 0xD800 ≤ high.value ∧ high.value < 0xDC00 then
    match rest : high.rest with
    | '\\' :: 'u' :: digits =>
      let low ← Text.hexadecimal? 4 digits
      let c ← ofSurrogates? high.value low.value
      have := high.shorter
      return (low.within (by simp only [rest, List.length_cons] at this; omega)).map fun _ => [c]
    | _ => none
  else
    let c ← Text.scalar? high.value
    return high.map fun _ => [c]

/-- Reads what follows a backslash inside a string. An escaped line end stands for nothing. -/
def escape? : (text : List Char) → Option (Reading Char (List Char) text)
  | 'b' :: rest => some (.ofHead ['\x08'] rest)
  | 'f' :: rest => some (.ofHead ['\x0c'] rest)
  | 'n' :: rest => some (.ofHead ['\n'] rest)
  | 'r' :: rest => some (.ofHead ['\r'] rest)
  | 't' :: rest => some (.ofHead ['\t'] rest)
  | 'v' :: rest => some (.ofHead ['\x0b'] rest)
  | 'x' :: rest =>
    (Text.hexadecimal? 2 rest).map fun code =>
      (code.map fun code => [Char.ofNat code]).behind 'x'
  | 'u' :: rest => (unicodeEscape? rest).map (·.behind 'u')
  | '\r' :: '\n' :: rest => some ⟨[], rest, by simp only [List.length_cons]; omega⟩
  | c :: rest =>
    if isLineEnd c then some (.ofHead [] rest)
    else if c = '0' ∧ !(rest.head?.any Char.isDigit) then some (.ofHead ['\x00'] rest)
    else if c.isDigit then none
    else some (.ofHead [c] rest)
  | [] => none

def quoted? (quote : Char) (text : List Char) : Option (Reading Char (List Char) text) :=
  match text with
  | [] => none
  | '\\' :: rest => do
    let escaped ← escape? rest
    have := escaped.shorter
    let tail ← quoted? quote escaped.rest
    return ((escaped.andThen tail).map (escaped.value ++ ·)).behind '\\'
  | c :: rest =>
    if c = quote then some (.ofHead [] rest)
    else if c = '\n' ∨ c = '\r' then none
    else (quoted? quote rest).map fun tail => (tail.map (c :: ·)).behind c
termination_by text.length

def isNumeralPart (c : Char) : Bool :=
  c.isAlphanum || c ∈ ['.', '+', '-']

/-- Holds of nothing, and of an exponent with at least one digit. -/
def isExponent : List Char → Bool
  | [] => true
  | letter :: rest =>
    let digits :=
      match rest with
      | '+' :: digits => digits
      | '-' :: digits => digits
      | digits => digits
    (letter = 'e' || letter = 'E') && !digits.isEmpty && digits.all Char.isDigit

/-- The number that a text without sign denotes, as an integer if it is written as one in decimal
digits. Either side of a point may be empty, but not both. -/
def unsigned? (text : List Char) : Option (Option Nat) :=
  let whole := text.takeWhile Char.isDigit
  if text = "Infinity".toList ∨ text = "NaN".toList then some none
  else if whole.head? = some '0' ∧ 1 < whole.length then none
  else
    match text.dropWhile Char.isDigit with
    | [] => if whole.isEmpty then none else (Text.number? 10 whole).map some
    | '.' :: rest =>
      let places := rest.takeWhile Char.isDigit
      if (whole.isEmpty && places.isEmpty) || !isExponent (rest.dropWhile Char.isDigit) then none
      else some none
    | exponent => if whole.isEmpty || !isExponent exponent then none else some none

/-- The integer that hexadecimal digits and a sign denote, which has to fit in 128 bits. -/
def hexadecimal? (negative : Bool) (digits : List Char) : Option Int := do
  let value ← if digits.isEmpty then none else Text.number? 16 digits
  if negative then
    if value ≤ Nat.pow 2 127 then some (-value) else none
  else
    if value < Nat.pow 2 128 then some value else none

/-- The sign of a number, whether it is negative, and what follows it. -/
def sign : List Char → Bool × List Char
  | '-' :: rest => (true, rest)
  | '+' :: rest => (false, rest)
  | rest => (false, rest)

def numeral? (text : List Char) : Option Token :=
  let (negative, digits) := sign text
  let decimal : Option Token :=
    (unsigned? digits).map fun
      | some n => .integer (if negative then -n else n)
      | none => .decimal (String.ofList text)
  match digits with
  | '0' :: 'x' :: digits => (hexadecimal? negative digits).map .integer
  | '0' :: 'X' :: digits => (hexadecimal? negative digits).map .integer
  | _ => decimal

def startsName (c : Char) : Bool :=
  c = '$' || c = '_' || Text.isLetter c

def continuesName (c : Char) : Bool :=
  startsName c || Text.isFollower c || c = '\u200c' || c = '\u200d'

/-- The number that an escape in a name writes in four hexadecimal digits, and what follows it. -/
def nameEscape? : List Char → Option (Nat × List Char)
  | '\\' :: 'u' :: a :: b :: c :: d :: rest => (Text.number? 16 [a, b, c, d]).map (·, rest)
  | _ => none

theorem nameEscape?_shorter {text rest : List Char} {code : Nat}
    (escape : nameEscape? text = some (code, rest)) : rest.length < text.length := by
  unfold nameEscape? at escape
  split at escape
  · simp only [Option.map_eq_some_iff, Prod.mk.injEq] at escape
    obtain ⟨_, _, _, rfl⟩ := escape
    simp only [List.length_cons]
    omega
  · simp at escape

/-- The characters of a name whose escapes are undone. Two escapes make one character if they are a
pair of surrogates. -/
def unescapeName? (text : List Char) : Option (List Char) :=
  match text with
  | [] => some []
  | c :: rest =>
    if c = '\\' then
      match _first : nameEscape? (c :: rest) with
      | none => none
      | some (high, after) =>
        if 0xD800 ≤ high ∧ high < 0xDC00 then
          match _second : nameEscape? after with
          | none => none
          | some (low, later) => do return (← ofSurrogates? high low) :: (← unescapeName? later)
        else do return (← Text.scalar? high) :: (← unescapeName? after)
    else (unescapeName? rest).map (c :: ·)
termination_by text.length
decreasing_by
  · exact Nat.lt_trans (nameEscape?_shorter _second) (nameEscape?_shorter _first)
  · exact nameEscape?_shorter _first
  · exact Nat.lt_succ_self _

def name? (text : List Char) : Option Token :=
  match unescapeName? text with
  | some (first :: rest) =>
    if startsName first && rest.all continuesName then
      some (.name (String.ofList (first :: rest)) ('\\' ∉ text))
    else none
  | _ => none

def read? (c : Char) (rest : List Char) : Option (Reading Char Token (c :: rest)) :=
  let word (p : Char → Bool) (token? : List Char → Option Token) :
      Option (Reading Char Token (c :: rest)) :=
    (token? (c :: rest.takeWhile p)).map fun token =>
      ⟨token, rest.dropWhile p, Nat.lt_succ_of_le (Text.dropWhile_length_le p rest)⟩
  if isMark c then some (.ofHead (.mark c) rest)
  else if c = '"' ∨ c = '\'' then
    (quoted? c rest).map fun text => (text.map (.string <| String.ofList ·)).behind c
  else if c.isDigit || c ∈ ['.', '+', '-'] then word isNumeralPart numeral?
  else word (fun c => c = '\\' || continuesName c) name?

/-- The tokens of a text, without the comments and the space between them. -/
def ofText? (text : List Char) : Option (List Token) :=
  match text with
  | [] => some []
  | '/' :: '/' :: rest =>
    have := Text.dropWhile_length_le (!isLineEnd ·) rest
    ofText? (rest.dropWhile (!isLineEnd ·))
  | '/' :: '*' :: rest => do
    let comment ← comment? rest
    have := comment.shorter
    ofText? comment.rest
  | c :: rest =>
    if isSpace c || isLineEnd c then ofText? rest
    else do
      let token ← read? c rest
      have := token.shorter
      return token.value :: (← ofText? token.rest)
termination_by text.length
decreasing_by all_goals simp only [List.length_cons] at *; omega

end Token

end ScoreSieve.Json
