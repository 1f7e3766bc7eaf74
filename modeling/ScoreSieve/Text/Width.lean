import ScoreSieve.Text.Columns
import ScoreSieve.Text.Ligature
import ScoreSieve.Text.Picture

namespace ScoreSieve.Text

/-- A sign that a text begins with, as far as a character in front may still become part of it. -/
inductive Sign
  /-- Nothing that a character in front could change. -/
  | plain
  | picture
  | skinTone
  /-- A picture after a joiner. -/
  | joinedPicture
  /-- The frame of a key in front of a joiner and a picture. -/
  | joinedKey
  /-- A letter of a flag, the last one of a row of them or not. -/
  | flagLetter (last : Bool)
  /-- A row of flag letters in front of a joiner and a picture. -/
  | joinedFlag (letters : Nat)
  /-- The end of the name of a region in front of a joiner and a picture: so many letters, and so
  many digits in front of them. -/
  | joinedRegion (letters digits : Nat)
  | arabicAlef
  /-- The Hebrew letter lamed, after a joiner or not. -/
  | hebrewLamed (joined : Bool)
  /-- The Buginese letter ya, after a joiner or not. -/
  | bugineseYa (joined : Bool)
  /-- The Buginese vowel sign i in front of a joined ya. -/
  | bugineseVowel
  /-- A Khmer letter that may go below another one. -/
  | khmerLetter
  /-- A Tifinagh consonant, after a joiner or not. -/
  | tifinaghConsonant (joined : Bool)
  | tifinaghJoiner
  | lisuTone
  /-- The Old Turkic letter i, after a joiner or not. -/
  | oldTurkicI (joined : Bool)
  | kiratVowel
  /-- Two Kirat Rai vowel signs e, in one character or in two. -/
  | kiratVowels
  deriving DecidableEq, Repr

namespace Sign

def ofChar (c : Char) : Sign :=
  if c.toNat ≤ 0xA0 then .plain
  else if isPicture c then .picture
  else if isSkinTone c then .skinTone
  else if isFlagLetter c then .flagLetter true
  else if isAlef c then .arabicAlef
  else if c = '\u05dc' then .hebrewLamed false
  else if c = '\u1a10' then .bugineseYa false
  else if isStackable c then .khmerLetter
  else if isTifinaghConsonant c then .tifinaghConsonant false
  else if isLowLisuTone c then .lisuTone
  else if c.toNat = 0x10C03 then .oldTurkicI false
  else if c.toNat = 0x16D67 then .kiratVowel
  else if c.toNat = 0x16D68 then .kiratVowels
  else .plain

/-- Holds if the sign is a letter that a letter in front may be tied to. -/
def isLetter : Sign → Bool
  | hebrewLamed _ | bugineseYa _ | bugineseVowel | khmerLetter | tifinaghConsonant _
  | tifinaghJoiner | lisuTone | oldTurkicI _ => true
  | _ => false

def join : Sign → Sign
  | hebrewLamed _ => hebrewLamed true
  | bugineseYa _ => bugineseYa true
  | tifinaghConsonant _ => tifinaghConsonant true
  | oldTurkicI _ => oldTurkicI true
  | sign => sign

/-- Holds if a selected picture in front is part of the sign. -/
def isJoinedPicture : Sign → Bool
  | joinedPicture | joinedKey => true
  | _ => false

/-- The sign with a character of the name of a region in front. Such a name consists of three to six
letters, or of three digits and at most four letters, and follows a black flag. -/
def extendRegion? (c : Char) (letters digits : Nat) : Option Sign :=
  if isTagLetter c then
    if digits = 0 ∧ letters < 6 then some (joinedRegion (letters + 1) 0) else none
  else if isTagDigit c then
    if digits < 3 ∧ (digits ≠ 0 ∨ letters ≤ 4) then some (joinedRegion letters (digits + 1))
    else none
  else if c = blackFlag ∧ (digits = 3 ∨ (digits = 0 ∧ 3 ≤ letters)) then some picture
  else none

/-- The columns that a character adds to a sign that it becomes part of, with the sign that the text
begins with then. A negative number takes back a column that the sign was given before. -/
def extend? (c : Char) : Sign → Option (Int × Sign)
  | plain => none
  | picture => if c = joiner then some (0, joinedPicture) else none
  | skinTone =>
    if hasSkin c then some (0, picture) else if c = joiner then some (0, joinedPicture) else none
  | joinedPicture =>
    if c = keyFrame then some (0, joinedKey)
    else if isFlagLetter c then some (1, joinedFlag 1)
    else if isSkinTone c then some (0, skinTone)
    else if c = tagEnd then some (0, joinedRegion 0 0)
    else if isPicture c then some (0, picture)
    else none
  | joinedKey => none
  | flagLetter last =>
    if isFlagLetter c then some (1, flagLetter false)
    else if c = joiner ∧ !last then some (0, joinedPicture)
    else none
  | joinedFlag letters =>
    if isFlagLetter c then some (if letters % 2 = 1 then -1 else 3, joinedFlag (letters + 1))
    else if c = joiner ∧ 1 < letters then some (0, joinedPicture)
    else none
  | joinedRegion letters digits => (extendRegion? c letters digits).map (0, ·)
  | arabicAlef =>
    if isLam c then some (0, plain)
    else if isMarkOnLetter c then some (0, arabicAlef)
    else none
  | hebrewLamed joined => if joined ∧ c = '\u05d0' then some (0, plain) else none
  | bugineseYa joined => if joined ∧ c = '\u1a17' then some (0, bugineseVowel) else none
  | bugineseVowel => if c = '\u1a15' then some (0, plain) else none
  | khmerLetter => if c = '\u17d2' then some (-1, plain) else none
  | tifinaghConsonant joined =>
    if c = '\u2d7f' then some (1, tifinaghJoiner)
    else if joined ∧ isTifinaghConsonant c then some (0, plain)
    else none
  | tifinaghJoiner => if isTifinaghConsonant c then some (-1, plain) else none
  | lisuTone => if isLisuTone c then some (0, plain) else none
  | oldTurkicI joined => if joined ∧ c.toNat = 0x10C32 then some (0, plain) else none
  | kiratVowel =>
    if c.toNat = 0x16D67 then some (0, kiratVowels)
    else if c.toNat = 0x16D68 then some (1, kiratVowel)
    else if c.toNat = 0x16D63 ∨ c.toNat = 0x16D69 then some (0, plain)
    else none
  | kiratVowels => if c.toNat = 0x16D63 then some (0, plain) else none

end Sign

/-- Which form a hidden character asks for, of the character in front of it. -/
inductive Selector
  | text
  | picture
  /-- The wide form of a quotation mark. -/
  | wide
  deriving DecidableEq, Repr

def Selector.ofChar? (c : Char) : Option Selector :=
  if c = '\ufe0e' then some text
  else if c = '\ufe0f' then some picture
  else if c = '\ufe01' then some wide
  else none

/-- The columns of a character in the form that is asked for, if it has that form. -/
def Selector.columns? (c : Char) : Selector → Option Nat
  | text => if isNarrowAsText c then some 1 else none
  | picture => if isSelectable c then some 2 else none
  | wide => if isQuotationMark c then some 2 else none

/-- How a text begins: with a selector or without one, and then with a sign. -/
structure Start where
  selector : Option Selector
  sign : Sign
  deriving DecidableEq, Repr

namespace Start

def ofSign (sign : Sign) : Start :=
  ⟨none, sign⟩

/-- The start of a text that begins with a selector. Letters stay tied across it, and so do joined
pictures if a picture is asked for. -/
def select (selector : Selector) (sign : Sign) : Start :=
  if sign.isLetter ∨ sign = .arabicAlef ∨ (selector = .picture ∧ sign.isJoinedPicture) then
    ⟨some selector, sign⟩
  else ⟨some selector, .plain⟩

/-- The columns that a character without selector adds to a text that begins with a sign, and the
start of the text then. -/
def extendSign (c : Char) (sign : Sign) : Int × Start :=
  if c.toNat ≤ 0xA0 then (1, ofSign .plain)
  else
    match Selector.ofChar? c with
    | some selector => (0, select selector sign)
    | none =>
      if sign.isLetter ∧ c = joiner then (0, ofSign sign.join)
      else if sign.isLetter ∧ isHiddenMark c then (0, ofSign sign)
      else
        match sign.extend? c with
        | some (columns, sign) => (columns, ofSign sign)
        | none => (columns c, ofSign (.ofChar c))

/-- The columns that a character adds to a text, and the start of the text then. -/
def extend (c : Char) (start : Start) : Int × Start :=
  match start.selector with
  | none => extendSign c start.sign
  | some selector =>
    match selector.columns? c with
    | some columns =>
      if selector = .picture then
        (if start.sign.isJoinedPicture then 0 else columns, ofSign .picture)
      else (columns, ofSign .plain)
    | none => extendSign c (if start.sign.isJoinedPicture then .plain else start.sign)

end Start

/-- The columns of a text, with what its start says to the character before it. Characters that are
shown as one sign fill the columns of the sign, so the text is read from its end. -/
def measure : List Char → Int × Start
  | [] => (0, .ofSign .plain)
  | c :: rest =>
    let (after, start) := measure rest
    let (added, start) := start.extend c
    (added + after, start)

def width (text : List Char) : Nat :=
  (measure text).1.toNat

end ScoreSieve.Text
