import ScoreSieve.Text.Reading
import ScoreSieve.Toml.Value

namespace ScoreSieve.Toml

/-- The digits of a number without the underscores, each of which stands between two digits. -/
def digits? (isDigit : Char → Bool) : List Char → Option (List Char)
  | [] => none
  | [c] => if isDigit c then some [c] else none
  | c :: '_' :: rest => if isDigit c then (digits? isDigit rest).map (c :: ·) else none
  | c :: rest => if isDigit c then (digits? isDigit rest).map (c :: ·) else none

/-- The digits of a number that does not start with a needless zero. -/
def leadingDigits? (text : List Char) : Option (List Char) :=
  match digits? Char.isDigit text with
  | some ['0'] => some ['0']
  | some ('0' :: _) => none
  | digits => digits

/-- The sign of a number, `-1` or `1`, and what follows it. -/
def sign : List Char → Int × List Char
  | '-' :: rest => (-1, rest)
  | '+' :: rest => (1, rest)
  | rest => (1, rest)

def int64? (n : Int) : Option Int :=
  if Int64.minValue.toInt ≤ n ∧ n ≤ Int64.maxValue.toInt then some n else none

def integer? (text : List Char) : Option Int :=
  let based (base : Nat) (digits : List Char) : Option Int := do
    let value ← Text.number? base (← digits? (fun c => (Text.digit? base c).isSome) digits)
    int64? value
  match text with
  | '0' :: 'x' :: digits => based 16 digits
  | '0' :: 'o' :: digits => based 8 digits
  | '0' :: 'b' :: digits => based 2 digits
  | text => do
    let value ← Text.number? 10 (← leadingDigits? (sign text).2)
    int64? ((sign text).1 * value)

/-- Holds if `coefficient * 10 ^ exponent` is rounded to infinity in double precision: if it is not
below the middle between the largest double and the power of two after it. -/
def exceedsDouble (coefficient : Nat) (exponent : Int) : Bool :=
  let limit := Nat.pow 2 1024 - Nat.pow 2 970
  let places := (Nat.toDigits 10 coefficient).length + exponent
  if coefficient = 0 ∨ places < 300 then false
  else if 310 < places then true
  else if 0 ≤ exponent then limit ≤ coefficient * Nat.pow 10 exponent.toNat
  else limit * Nat.pow 10 (-exponent).toNat ≤ coefficient

/-- Cuts a text before the first character with a property. -/
def cut (p : Char → Bool) (text : List Char) : List Char × List Char :=
  (text.takeWhile (!p ·), text.dropWhile (!p ·))

/-- The coefficient and the exponent of a number with a fraction, an exponent or both. -/
def fraction? (text : List Char) : Option (Nat × Int) := do
  let (mantissa, power) := cut (fun c => c = 'e' || c = 'E') text
  let (whole, places) := cut (· = '.') mantissa
  if power.isEmpty && places.isEmpty then none
  let whole ← leadingDigits? whole
  let places ← if places.isEmpty then some [] else digits? Char.isDigit places.tail
  let power ←
    if power.isEmpty then some (0 : Int)
    else do
      let (sign, digits) := sign power.tail
      let value ← Text.number? 10 (← digits? Char.isDigit digits)
      some (sign * value)
  let coefficient ← Text.number? 10 (whole ++ places)
  return (coefficient, power - places.length)

/-- Holds of a number that is not written as an integer. It must not be too large for a double, but
may be too small. -/
def isDecimal (text : List Char) : Bool :=
  let (sign, unsigned) := sign text
  unsigned = "inf".toList || unsigned = "nan".toList ||
    match fraction? unsigned with
    | some (coefficient, exponent) => sign = -1 || !exceedsDouble coefficient exponent
    | none => false

def fixed? (count : Nat) (digits : List Char) : Option Nat :=
  if digits.length = count ∧ digits.all Char.isDigit then Text.number? 10 digits else none

def daysIn (year month : Nat) : Nat :=
  if month = 2 then
    if year % 4 = 0 ∧ (year % 100 ≠ 0 ∨ year % 400 = 0) then 29 else 28
  else if month ∈ [4, 6, 9, 11] then 30
  else 31

def isDate (text : List Char) : Bool :=
  match text.splitOn '-' with
  | [year, month, day] =>
    match fixed? 4 year, fixed? 2 month, fixed? 2 day with
    | some year, some month, some day =>
      1 ≤ month && month ≤ 12 && 1 ≤ day && day ≤ daysIn year month
    | _, _, _ => false
  | _ => false

def isUpTo (bound : Nat) (digits : List Char) : Bool :=
  (fixed? 2 digits).any (· ≤ bound)

/-- Holds of hours, minutes and seconds, which a fraction may follow. -/
def isTime (text : List Char) : Bool :=
  match text.splitOn ':' with
  | [hour, minute, second] =>
    let (whole, places) := cut (· = '.') second
    isUpTo 23 hour && isUpTo 59 minute && isUpTo 60 whole &&
      (places.isEmpty || (!places.tail.isEmpty && places.tail.all Char.isDigit))
  | _ => false

/-- Holds of nothing, of `Z`, and of a signed number of hours and minutes. -/
def isOffset : List Char → Bool
  | [] => true
  | ['Z'] => true
  | ['z'] => true
  | sign :: rest =>
    (sign = '+' || sign = '-') &&
      match rest.splitOn ':' with
      | [hour, minute] => isUpTo 23 hour && isUpTo 59 minute
      | _ => false

def isTimeWithOffset (text : List Char) : Bool :=
  let (time, offset) := cut (fun c => c ∈ ['Z', 'z', '+', '-']) text
  isTime time && isOffset offset

/-- Holds of a date, a time, or a date and a time with a separator between them. -/
def isMoment (text : List Char) : Bool :=
  isDate text || isTime text ||
    match text.drop 10 with
    | separator :: time =>
      separator ∈ ['T', 't', ' '] && isDate (text.take 10) && isTimeWithOffset time
    | [] => false

def scalar? (text : List Char) : Option Toml :=
  if text = "true".toList then some (boolean true)
  else if text = "false".toList then some (boolean false)
  else if isMoment text then some (moment (String.ofList text))
  else if isDecimal text then some (decimal (String.ofList text))
  else (integer? text).map integer

def isWordPart (c : Char) : Bool :=
  c.isAlphanum || c ∈ ['+', '-', '.', ':', '_']

/-- The time that a space parts from the date before it, and what follows. -/
def timeAfter? : (text : List Char) → Option (Reading Char (List Char) text)
  | ' ' :: digit :: rest =>
    if digit.isDigit then
      some ⟨' ' :: digit :: rest.takeWhile isWordPart, rest.dropWhile isWordPart, by
        have := Text.dropWhile_length_le isWordPart rest
        simp only [List.length_cons]; omega⟩
    else none
  | _ => none

/-- Reads the word that starts with `c`, with the time after it if it is a date. -/
def word? (c : Char) (rest : List Char) : Option (Reading Char Toml (c :: rest)) :=
  let word := c :: rest.takeWhile isWordPart
  have bound := Text.dropWhile_length_le isWordPart rest
  match if isDate word then timeAfter? (rest.dropWhile isWordPart) else none with
  | some time =>
    (scalar? (word ++ time.value)).map fun value =>
      (time.map fun _ => value).within (Nat.le_succ_of_le bound)
  | none =>
    (scalar? word).map fun value =>
      ⟨value, rest.dropWhile isWordPart, Nat.lt_succ_of_le bound⟩

end ScoreSieve.Toml
