import Mathlib.Data.List.Forall2
import Mathlib.Data.List.TakeWhile
import ScoreSieve.Json.Reader

namespace ScoreSieve

/-- Holds if a reading gives this value and leaves this rest. -/
def Reads {τ α : Type} {input : List τ} (reading : Option (Reading τ α input)) (value : α)
    (rest : List τ) : Prop :=
  ∃ found, reading = some found ∧ found.value = value ∧ found.rest = rest

theorem Reads.map_behind {τ α β : Type} {input rest : List τ} {reading : Option (Reading τ α input)}
    {value : α} (reads : Reads reading value rest) (f : α → β) (t : τ) :
    Reads (reading.map fun found => (found.map f).behind t) (f value) rest := by
  obtain ⟨found, rfl, rfl, rfl⟩ := reads
  exact ⟨_, rfl, rfl, rfl⟩

theorem Reads.behind {τ α : Type} {input rest : List τ} {reading : Option (Reading τ α input)}
    {value : α} (reads : Reads reading value rest) (t : τ) :
    Reads (reading.map (·.behind t)) value rest :=
  reads.map_behind id t

namespace Json

theorem toNat_of_isDigit {c : Char} (digit : c.isDigit = true) :
    '0'.toNat ≤ c.toNat ∧ c.toNat ≤ '9'.toNat := by
  simpa [Char.isDigit, Char.le_def, UInt32.le_iff_toNat_le] using digit

theorem digit?_of_isDigit {c : Char} (digit : c.isDigit = true) :
    Text.digit? 10 c = some (c.toNat - '0'.toNat) := by
  have small : c.toNat - '0'.toNat < 10 := by
    have nine : '9'.toNat = '0'.toNat + 9 := rfl
    have range := toNat_of_isDigit digit
    omega
  simp only [Text.digit?, digit, if_true, small]

/-- Digits are read as the number that the library makes of them. -/
theorem number?_eq_ofDigitChars {digits : List Char} (all : ∀ c ∈ digits, c.isDigit = true) :
    Text.number? 10 digits = some (Nat.ofDigitChars 10 digits 0) := by
  have step (start : Nat) :
      digits.foldlM (fun value c => (Text.digit? 10 c).map (10 * value + ·)) start =
        some (Nat.ofDigitChars 10 digits start) := by
    induction digits generalizing start with
    | nil => rfl
    | cons c rest ih =>
      obtain ⟨digit, others⟩ := List.forall_mem_cons.mp all
      rw [List.foldlM_cons, digit?_of_isDigit digit]
      exact ih others _
  exact step 0

theorem isDigit_of_mem_toDigits {n : Nat} {c : Char} (member : c ∈ Nat.toDigits 10 n) :
    c.isDigit = true :=
  Nat.isDigit_of_mem_toDigits (by omega) (by omega) member

theorem not_mem_toDigits {c : Char} (noDigit : c.isDigit = false) (n : Nat) :
    c ∉ Nat.toDigits 10 n := by
  intro member
  rw [isDigit_of_mem_toDigits member] at noDigit
  cases noDigit

/-- No positive number is written with a zero in front. -/
theorem head?_toDigits_ne_zero {n : Nat} (positive : 0 < n) :
    (Nat.toDigits 10 n).head? ≠ some '0' := by
  induction n using Nat.strongRecOn with
  | ind n ih =>
    by_cases small : n < 10
    · have digit : ∀ n < 10, 0 < n → n.digitChar ≠ '0' := by decide
      simpa [Nat.toDigits_of_lt_base small] using digit n small positive
    · rw [Nat.toDigits_of_base_le (by omega) (by omega),
        List.head?_append_of_ne_nil _ Nat.toDigits_ne_nil]
      exact ih (n / 10) (by omega) (by omega)

theorem unsigned?_toDigits (n : Nat) : Token.unsigned? (Nat.toDigits 10 n) = some (some n) := by
  have digits : ∀ c ∈ Nat.toDigits 10 n, c.isDigit = true := fun _ => isDigit_of_mem_toDigits
  have noWord : ¬ (Nat.toDigits 10 n = "Infinity".toList ∨ Nat.toDigits 10 n = "NaN".toList) := by
    rintro (same | same)
    · exact not_mem_toDigits (c := 'I') (by decide) n (by simp [same])
    · exact not_mem_toDigits (c := 'N') (by decide) n (by simp [same])
  have whole : (Nat.toDigits 10 n).takeWhile Char.isDigit = Nat.toDigits 10 n :=
    List.takeWhile_eq_self_iff.mpr digits
  have nothing : (Nat.toDigits 10 n).dropWhile Char.isDigit = [] :=
    List.dropWhile_eq_nil_iff.mpr digits
  have noZero : ¬ ((Nat.toDigits 10 n).head? = some '0' ∧ 1 < (Nat.toDigits 10 n).length) := by
    rintro ⟨zero, long⟩
    cases n with
    | zero => simp at long
    | succ n => exact head?_toDigits_ne_zero (Nat.succ_pos n) zero
  have some : (Nat.toDigits 10 n).isEmpty = false := by simp [Nat.toDigits_ne_nil]
  simp only [Token.unsigned?, whole, nothing, if_neg noWord, if_neg noZero, some,
    number?_eq_ofDigitChars digits, Nat.ofDigitChars_ten_toDigits, Option.map_some,
    Bool.false_eq_true, if_false]

theorem sign_toDigits (n : Nat) : Token.sign (Nat.toDigits 10 n) = (false, Nat.toDigits 10 n) := by
  unfold Token.sign
  split
  next rest minus => exact absurd (by simp [minus]) (not_mem_toDigits (c := '-') (by decide) n)
  next rest plus => exact absurd (by simp [plus]) (not_mem_toDigits (c := '+') (by decide) n)
  next => rfl

theorem numeral?_of_sign {text : List Char} {negative : Bool} {n : Nat}
    (signed : Token.sign text = (negative, Nat.toDigits 10 n)) :
    Token.numeral? text = some (.integer (if negative then -n else n)) := by
  simp only [Token.numeral?, signed, unsigned?_toDigits]
  split
  next rest hexadecimal =>
    exact absurd (by simp [hexadecimal]) (not_mem_toDigits (c := 'x') (by decide) n)
  next rest hexadecimal =>
    exact absurd (by simp [hexadecimal]) (not_mem_toDigits (c := 'X') (by decide) n)
  next => rfl

theorem toList_toString (value : Int) :
    (toString value).toList =
      if 0 ≤ value then Nat.toDigits 10 value.toNat else '-' :: Nat.toDigits 10 (-value).toNat := by
  rw [show toString value = value.repr from rfl, Int.repr_eq_if]
  split <;> simp [Nat.repr_eq_ofList_toDigits]

theorem numeral?_toString (value : Int) :
    Token.numeral? (toString value).toList = some (.integer value) := by
  rw [toList_toString]
  split
  next natural =>
    rw [numeral?_of_sign (sign_toDigits _), Int.toNat_of_nonneg natural]
    rfl
  next negative =>
    have below : 0 ≤ -value := by omega
    have signed : Token.sign ('-' :: Nat.toDigits 10 (-value).toNat) =
        (true, Nat.toDigits 10 (-value).toNat) := rfl
    rw [numeral?_of_sign signed, Int.toNat_of_nonneg below]
    simp

/-- Holds of what can follow a value on its line. -/
def Closes (rest : List Char) : Prop :=
  ∀ c ∈ rest.head?, c = ',' ∨ c = '\n'

/-- A word ends where a comma, a line or the text ends, because none of these can be part of it. -/
theorem span_of_closes {p : Char → Bool} {word rest : List Char} (comma : p ',' = false)
    (lineEnd : p '\n' = false) (all : ∀ c ∈ word, p c = true) (closes : Closes rest) :
    (word ++ rest).takeWhile p = word ∧ (word ++ rest).dropWhile p = rest := by
  rw [List.takeWhile_append_of_pos all, List.dropWhile_append_of_pos all]
  cases rest with
  | nil => simp
  | cons c rest =>
    have stops : p c = false := by
      rcases closes c rfl with rfl | rfl
      · exact comma
      · exact lineEnd
    simp [stops]

theorem ofText?_blank {c : Char} (blank : c = ' ' ∨ c = '\n') (rest : List Char) :
    Token.ofText? (c :: rest) = Token.ofText? rest := by
  rcases blank with rfl | rfl
  all_goals
    rw [Token.ofText?]
    · rfl
    all_goals simp

/-- If a character starts a token and neither a comment nor white space, then that token comes first
and the rest follows. -/
theorem ofText?_of_reads {c : Char} {rest after : List Char} {token : Token} (noComment : c ≠ '/')
    (solid : (Token.isSpace c || Token.isLineEnd c) = false)
    (reads : Reads (Token.read? c rest) token after) :
    Token.ofText? (c :: rest) = (Token.ofText? after).map (token :: ·) := by
  obtain ⟨found, read, rfl, rfl⟩ := reads
  rw [Token.ofText?]
  · simp only [solid, Bool.false_eq_true, if_false, read, Option.map_eq_bind]
    rfl
  · exact fun _ slash => absurd slash noComment
  · exact fun _ slash => absurd slash noComment

/-- Holds if a text stands for these tokens in front of whatever can follow a value. -/
def Spells (text : List Char) (tokens : List Token) : Prop :=
  ∀ rest, Closes rest → Token.ofText? (text ++ rest) = (Token.ofText? rest).map (tokens ++ ·)

theorem spells_of_reads {c : Char} {word : List Char} {token : Token} (noComment : c ≠ '/')
    (solid : (Token.isSpace c || Token.isLineEnd c) = false)
    (reads : ∀ rest, Closes rest → Reads (Token.read? c (word ++ rest)) token rest) :
    Spells (c :: word) [token] := by
  intro rest closes
  exact ofText?_of_reads noComment solid (reads rest closes)

/-- A token reader that takes characters of a kind takes a word of them, if neither a comma nor a
line end is of this kind. -/
theorem reads_word {c : Char} {word rest : List Char} {p : Char → Bool}
    {token? : List Char → Option Token} {token : Token} (comma : p ',' = false)
    (lineEnd : p '\n' = false) (all : ∀ d ∈ word, p d = true) (closes : Closes rest)
    (given : token? (c :: word) = some token)
    (reader : Token.read? c (word ++ rest) =
      (token? (c :: (word ++ rest).takeWhile p)).map fun token =>
        ⟨token, (word ++ rest).dropWhile p,
          Nat.lt_succ_of_le (Text.dropWhile_length_le p (word ++ rest))⟩) :
    Reads (Token.read? c (word ++ rest)) token rest := by
  obtain ⟨taken, left⟩ := span_of_closes comma lineEnd all closes
  rw [reader, taken, given]
  exact ⟨_, rfl, rfl, left⟩

/-- The words for truth values and for nothing are names that end where the value ends. -/
theorem spells_name {c : Char} {word : List Char} {token : Token}
    (start : c = 'n' ∨ c = 't' ∨ c = 'f') (letters : word.all Token.continuesName = true)
    (given : Token.name? (c :: word) = some token) : Spells (c :: word) [token] := by
  have comma : ((',' : Char) = '\\' || Token.continuesName ',') = false := by decide +kernel
  have lineEnd : (('\n' : Char) = '\\' || Token.continuesName '\n') = false := by decide +kernel
  have all : ∀ d ∈ word, (d = '\\' || Token.continuesName d) = true := by
    intro d member
    rw [List.all_eq_true.mp letters d member, Bool.or_true]
  rcases start with rfl | rfl | rfl
  all_goals
    exact spells_of_reads (by decide) (by decide) fun rest closes =>
      reads_word (p := fun d => d = '\\' || Token.continuesName d) comma lineEnd all closes given
        rfl

theorem spells_null : Spells "null".toList [.name "null" true] :=
  spells_name (.inl rfl) (by decide +kernel) (by decide +kernel)

theorem spells_boolean (value : Bool) :
    Spells (if value then "true" else "false").toList
      [.name (if value then "true" else "false") true] := by
  cases value
  · exact spells_name (.inr (.inr rfl)) (by decide +kernel) (by decide +kernel)
  · exact spells_name (.inr (.inl rfl)) (by decide +kernel) (by decide +kernel)

theorem isNumeralPart_of_isDigit {c : Char} (digit : c.isDigit = true) :
    Token.isNumeralPart c = true := by
  simp [Token.isNumeralPart, Char.isAlphanum, digit]

theorem spells_numeral {c : Char} {word : List Char} {token : Token}
    (start : c.isDigit = true ∨ c = '-') (digits : ∀ d ∈ word, d.isDigit = true)
    (given : Token.numeral? (c :: word) = some token) : Spells (c :: word) [token] := by
  have parts : ∀ d ∈ word, Token.isNumeralPart d = true := fun d member =>
    isNumeralPart_of_isDigit (digits d member)
  rcases start with digit | rfl
  · have apart {d : Char} (other : d.isDigit = false) : c ≠ d := by
      rintro rfl
      rw [digit] at other
      cases other
    have noMark : Token.isMark c = false := by simp [Token.isMark, apart]
    have noSpace : (Token.isSpace c || Token.isLineEnd c) = false := by
      have low : ¬ '\u2000' ≤ c := by
        intro high
        have beyond : '\u2000'.toNat ≤ c.toNat := high
        have nine : '9'.toNat < '\u2000'.toNat := by decide
        have range := toNat_of_isDigit digit
        omega
      simp [Token.isSpace, Token.isLineEnd, apart, low]
    have noQuote : ¬ (c = '"' ∨ c = '\'') := by simp [apart]
    have numeral : (c.isDigit || c ∈ ['.', '+', '-']) = true := by rw [digit, Bool.true_or]
    refine spells_of_reads (apart rfl) noSpace fun rest closes =>
      reads_word (p := Token.isNumeralPart) (by decide) (by decide) parts closes given ?_
    simp only [Token.read?, noMark, noQuote, numeral, Bool.false_eq_true, if_false, if_true]
  · exact spells_of_reads (by decide) (by decide) fun rest closes =>
      reads_word (by decide) (by decide) parts closes given rfl

theorem spells_integer (value : Int) : Spells (toString value).toList [.integer value] := by
  have given := numeral?_toString value
  rw [toList_toString] at given
  rw [toList_toString]
  by_cases natural : 0 ≤ value
  · rw [if_pos natural] at given ⊢
    cases text : Nat.toDigits 10 value.toNat with
    | nil => exact absurd text Nat.toDigits_ne_nil
    | cons c word =>
      have digits : ∀ d ∈ c :: word, d.isDigit = true := text ▸ fun _ => isDigit_of_mem_toDigits
      obtain ⟨first, others⟩ := List.forall_mem_cons.mp digits
      exact spells_numeral (.inl first) others (text ▸ given)
  · rw [if_neg natural] at given ⊢
    exact spells_numeral (.inr rfl) (fun _ => isDigit_of_mem_toDigits) given

theorem hexadecimal?_hexDigits {n : Nat} (control : n < 0x20) (rest : List Char) :
    Reads (Text.hexadecimal? 4 ((hexDigits n).toList ++ rest)) n rest := by
  have length : (hexDigits n).toList.length = 4 := by simp [hexDigits]
  have value : Text.number? 16 (hexDigits n).toList = some n := by
    have all : ∀ n < 0x20, Text.number? 16 (hexDigits n).toList = some n := by decide +kernel
    exact all n control
  have taken : ((hexDigits n).toList ++ rest).take 4 = (hexDigits n).toList :=
    List.take_left' length
  have left : ((hexDigits n).toList ++ rest).drop 4 = rest := List.drop_left' length
  have enough : 0 < 4 ∧ 4 ≤ ((hexDigits n).toList ++ rest).length := by
    simp only [List.length_append, length]
    omega
  rw [Text.hexadecimal?, dif_pos enough, taken, value]
  exact ⟨_, rfl, rfl, left⟩

theorem reads_unicodeEscape {c : Char} (control : c.toNat < 0x20) (rest : List Char) :
    Reads (Token.unicodeEscape? ((hexDigits c.toNat).toList ++ rest)) [c] rest := by
  obtain ⟨found, read, value, left⟩ := hexadecimal?_hexDigits control rest
  have noPair : ¬ (0xD800 ≤ c.toNat ∧ c.toNat < 0xDC00) := by omega
  have valid : Text.scalar? c.toNat = some c := by
    have isValid : c.toNat.isValidChar := c.valid
    rw [Text.scalar?, if_pos isValid, Char.ofNat_toNat]
  simp only [Token.unicodeEscape?, read, Option.bind_eq_bind, Option.bind_some, value,
    if_neg noPair, valid]
  exact ⟨_, rfl, rfl, left⟩

/-- A character is written as an escape that stands for it, or as it is where it needs none. -/
theorem escape_cases (c : Char) :
    (∃ code, (escape c).toList = '\\' :: code ∧
      ∀ rest, Reads (Token.escape? (code ++ rest)) [c] rest) ∨
    ((escape c).toList = [c] ∧ c ≠ '\\' ∧ c ≠ '"' ∧ ¬ (c = '\n' ∨ c = '\r')) := by
  unfold escape
  split
  · exact .inl ⟨['"'], rfl, fun _ => ⟨_, rfl, rfl, rfl⟩⟩
  · exact .inl ⟨['\\'], rfl, fun _ => ⟨_, rfl, rfl, rfl⟩⟩
  · exact .inl ⟨['b'], rfl, fun _ => ⟨_, rfl, rfl, rfl⟩⟩
  · exact .inl ⟨['f'], rfl, fun _ => ⟨_, rfl, rfl, rfl⟩⟩
  · exact .inl ⟨['n'], rfl, fun _ => ⟨_, rfl, rfl, rfl⟩⟩
  · exact .inl ⟨['r'], rfl, fun _ => ⟨_, rfl, rfl, rfl⟩⟩
  · exact .inl ⟨['t'], rfl, fun _ => ⟨_, rfl, rfl, rfl⟩⟩
  next quote backslash _ _ lineFeed carriageReturn _ =>
    split
    next control =>
      refine .inl ⟨'u' :: (hexDigits c.toNat).toList, by simp, fun rest => ?_⟩
      rw [List.cons_append, Token.escape?]
      exact (reads_unicodeEscape control rest).behind 'u'
    next => exact .inr ⟨by simp, backslash, quote, not_or.mpr ⟨lineFeed, carriageReturn⟩⟩

/-- Behind a backslash, what the escape stands for comes in front of the rest of the string. -/
theorem reads_quoted_escape {quote : Char} {code after escaped text rest : List Char}
    (first : Reads (Token.escape? code) escaped after)
    (later : Reads (Token.quoted? quote after) text rest) :
    Reads (Token.quoted? quote ('\\' :: code)) (escaped ++ text) rest := by
  obtain ⟨found, read, rfl, rfl⟩ := first
  obtain ⟨tail, readTail, rfl, rfl⟩ := later
  rw [Token.quoted?]
  simp only [read, readTail, Option.bind_eq_bind, Option.bind_some]
  exact ⟨_, rfl, rfl, rfl⟩

/-- What is written between quotes is read up to the closing one. -/
theorem reads_quoted (text rest : List Char) :
    Reads (Token.quoted? '"' (text.flatMap (fun c => (escape c).toList) ++ '"' :: rest)) text
      rest := by
  induction text with
  | nil =>
    rw [List.flatMap_nil, List.nil_append, Token.quoted?]
    · exact ⟨_, rfl, rfl, rfl⟩
    · simp
  | cons c text ih =>
    rw [List.flatMap_cons, List.append_assoc]
    rcases escape_cases c with ⟨code, escaped, undone⟩ | ⟨plain, noBackslash, noQuote, noLineEnd⟩
    · rw [escaped]
      exact reads_quoted_escape (undone _) ih
    · rw [plain, List.singleton_append, Token.quoted?, if_neg noQuote, if_neg noLineEnd]
      · exact ih.map_behind (c :: ·) c
      · exact noBackslash

theorem toList_quote (text : String) :
    (quote text).toList = '"' :: (text.toList.flatMap (fun c => (escape c).toList) ++ ['"']) := by
  simp [quote, List.flatMap_def, Function.comp_def]

/-- A quoted text is read as one string token, whatever characters are in it and whatever
follows. -/
theorem ofText?_quote (text : String) (rest : List Char) :
    Token.ofText? ((quote text).toList ++ rest) = (Token.ofText? rest).map (.string text :: ·) := by
  rw [toList_quote, List.cons_append, List.append_assoc]
  refine ofText?_of_reads (by decide) (by decide) ?_
  have reads :=
    (reads_quoted text.toList rest).map_behind (fun text => Token.string (String.ofList text)) '"'
  rw [String.ofList_toList] at reads
  exact reads

end Json

end ScoreSieve
