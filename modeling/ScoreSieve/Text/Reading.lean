namespace ScoreSieve

/-- What the start of an input says, with the rest of the input, which is shorter. -/
structure Reading (τ α : Type) (input : List τ) where
  value : α
  rest : List τ
  shorter : rest.length < input.length

namespace Reading

variable {τ α β : Type} {input longer : List τ}

def map (f : α → β) (reading : Reading τ α input) : Reading τ β input :=
  ⟨f reading.value, reading.rest, reading.shorter⟩

/-- A reading of no more than the first thing of an input. -/
def ofHead (value : α) {t : τ} (rest : List τ) : Reading τ α (t :: rest) :=
  ⟨value, rest, Nat.lt_succ_self _⟩

/-- Behind one more token there is strictly less to read than at the start. -/
theorem shorter_rest {t : τ} {rest : List τ} (reading : Reading τ α input)
    (next : reading.rest = t :: rest) : rest.length < input.length := by
  have bound := reading.shorter
  rw [next, List.length_cons] at bound
  exact Nat.lt_of_succ_lt bound

/-- The same reading of an input with more in front. -/
def within (reading : Reading τ α input) (bound : input.length ≤ longer.length) :
    Reading τ α longer :=
  ⟨reading.value, reading.rest, Nat.lt_of_lt_of_le reading.shorter bound⟩

def behind (reading : Reading τ α input) (t : τ) : Reading τ α (t :: input) :=
  reading.within (Nat.le_succ _)

/-- A reading of what follows one thing more, taken for a reading of the whole input. -/
def andThenPast {t : τ} {rest : List τ} (first : Reading τ α input) (next : first.rest = t :: rest)
    (second : Reading τ β rest) : Reading τ β input :=
  second.within (Nat.le_of_lt (first.shorter_rest next))

def andThen (first : Reading τ α input) (second : Reading τ β first.rest) : Reading τ β input :=
  second.within (Nat.le_of_lt first.shorter)

end Reading

namespace Text

theorem dropWhile_length_le (p : Char → Bool) (text : List Char) :
    (text.dropWhile p).length ≤ text.length :=
  (List.dropWhile_sublist p).length_le

/-- The value of a digit in a base up to sixteen. -/
def digit? (base : Nat) (c : Char) : Option Nat :=
  let value :=
    if c.isDigit then c.toNat - '0'.toNat
    else if 'a' ≤ c ∧ c ≤ 'f' then c.toNat - 'a'.toNat + 10
    else if 'A' ≤ c ∧ c ≤ 'F' then c.toNat - 'A'.toNat + 10
    else base
  if value < base then some value else none

/-- The value of a row of digits, most significant first. -/
def number? (base : Nat) (digits : List Char) : Option Nat :=
  digits.foldlM (fun value c => (digit? base c).map (base * value + ·)) 0

/-- The number written in exactly `count` hexadecimal digits at the start of a text. -/
def hexadecimal? (count : Nat) (text : List Char) : Option (Reading Char Nat text) :=
  if enough : 0 < count ∧ count ≤ text.length then
    (number? 16 (text.take count)).map fun value =>
      ⟨value, text.drop count, by rw [List.length_drop]; omega⟩
  else none

/-- The character of a code point; surrogates have none. -/
def scalar? (code : Nat) : Option Char :=
  if code.isValidChar then some (Char.ofNat code) else none

end Text

end ScoreSieve
