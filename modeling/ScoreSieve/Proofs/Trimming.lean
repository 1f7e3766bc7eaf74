import Mathlib.Data.List.TakeWhile
import ScoreSieve.Text.Blank

namespace ScoreSieve.Text

/-- Holds of a text without white space at either end. -/
structure IsTrimmed (text : List Char) : Prop where
  first : ∀ c ∈ text.head?, isBlank c = false
  last : ∀ c ∈ text.getLast?, isBlank c = false

variable {text core before after : List Char}

theorem trimStart_eq_self (first : ∀ c ∈ text.head?, isBlank c = false) :
    trimStart text = text := by
  cases text with
  | nil => rfl
  | cons c rest => rw [trimStart, List.dropWhile_cons_of_neg (by simp [first c rfl])]

theorem trimStart_blanks_append (blanks : ∀ c ∈ before, isBlank c = true) (text : List Char) :
    trimStart (before ++ text) = trimStart text :=
  List.dropWhile_append_of_pos blanks

theorem trimStart_head (text : List Char) : ∀ c ∈ (trimStart text).head?, isBlank c = false := by
  intro c start
  have stop := List.head?_dropWhile_not isBlank text
  rw [trimStart, Option.mem_def] at start
  rw [start] at stop
  simpa using stop

/-- What is trimmed off the start of a text is white space. -/
theorem exists_blanks_trimStart (text : List Char) :
    ∃ before, (∀ c ∈ before, isBlank c = true) ∧ text = before ++ trimStart text :=
  ⟨text.takeWhile isBlank, fun _ member => List.mem_takeWhile_imp member,
    List.takeWhile_append_dropWhile.symm⟩

theorem trimEnd_eq_reverse (text : List Char) :
    trimEnd text = (trimStart text.reverse).reverse := rfl

theorem trimEnd_eq_self (last : ∀ c ∈ text.getLast?, isBlank c = false) :
    trimEnd text = text := by
  rw [trimEnd_eq_reverse, trimStart_eq_self, List.reverse_reverse]
  simpa using last

theorem trimEnd_append_blanks (blanks : ∀ c ∈ after, isBlank c = true) (text : List Char) :
    trimEnd (text ++ after) = trimEnd text := by
  rw [trimEnd_eq_reverse, List.reverse_append, trimStart_blanks_append (by simpa using blanks),
    trimEnd_eq_reverse]

theorem exists_blanks_trimEnd (text : List Char) :
    ∃ after, (∀ c ∈ after, isBlank c = true) ∧ text = trimEnd text ++ after := by
  obtain ⟨before, blanks, split⟩ := exists_blanks_trimStart text.reverse
  refine ⟨before.reverse, by simpa using blanks, ?_⟩
  rw [trimEnd_eq_reverse, ← List.reverse_append, ← split, List.reverse_reverse]

/-- The core between white space is what trimming leaves. -/
theorem trim_surrounded (blanksBefore : ∀ c ∈ before, isBlank c = true)
    (trimmed : IsTrimmed core) (blanksAfter : ∀ c ∈ after, isBlank c = true) :
    trim (before ++ core ++ after) = core := by
  rw [trim, List.append_assoc, trimStart_blanks_append blanksBefore]
  cases core with
  | nil =>
    have nothing := trimStart_blanks_append blanksAfter []
    rw [List.append_nil] at nothing
    rw [List.nil_append, nothing]
    rfl
  | cons c rest =>
    have first : ∀ d ∈ (c :: rest ++ after).head?, isBlank d = false := trimmed.first
    rw [trimStart_eq_self first, trimEnd_append_blanks blanksAfter, trimEnd_eq_self trimmed.last]

theorem trim_eq_self (trimmed : IsTrimmed text) : trim text = text := by
  rw [trim, trimStart_eq_self trimmed.first, trimEnd_eq_self trimmed.last]

theorem trimStart_concat {c : Char} (solid : isBlank c = false) (text : List Char) :
    trimStart (text ++ [c]) = trimStart text ++ [c] := by
  rw [trimStart, List.dropWhile_append]
  split
  next blank => simp [trimStart, List.isEmpty_iff.mp blank, solid]
  next => rfl

theorem trimEnd_cons {c : Char} (solid : isBlank c = false) (text : List Char) :
    trimEnd (c :: text) = c :: trimEnd text := by
  rw [trimEnd_eq_reverse, List.reverse_cons, trimStart_concat solid, List.reverse_concat,
    trimEnd_eq_reverse]

/-- A text that starts with a character other than white space is trimmed behind it only. -/
theorem trim_cons {c : Char} (solid : isBlank c = false) (text : List Char) :
    trim (c :: text) = c :: trimEnd text := by
  have first : ∀ d ∈ (c :: text).head?, isBlank d = false := by simpa using solid
  rw [trim, trimStart_eq_self first, trimEnd_cons solid]

/-- A trimmed text neither starts nor ends with white space. -/
theorem isTrimmed_trim (text : List Char) : IsTrimmed (trim text) where
  first := by
    intro c start
    obtain ⟨after, _, split⟩ := exists_blanks_trimEnd (trimStart text)
    refine trimStart_head text c ?_
    rw [split, List.head?_append, ← trim, Option.mem_def, Option.mem_def.mp start, Option.some_or]
  last := by
    intro c stop
    refine trimStart_head (trimStart text).reverse c ?_
    rwa [trim, trimEnd_eq_reverse, List.getLast?_reverse] at stop

theorem trim_trim (text : List Char) : trim (trim text) = trim text :=
  trim_eq_self (isTrimmed_trim text)

theorem trim_trimStart (text : List Char) : trim (trimStart text) = trim text := by
  rw [trim, trimStart_eq_self (trimStart_head text), trim]

/-- A text that ends in a character other than white space is trimmed before it only. -/
theorem trim_concat {c : Char} (solid : isBlank c = false) (text : List Char) :
    trim (text ++ [c]) = trimStart text ++ [c] := by
  rw [trim, trimStart_concat solid, trimEnd_eq_self (by simp [solid])]

/-- Every text is what trimming leaves of it, between white space. -/
theorem exists_blanks_trim (text : List Char) :
    ∃ before after, (∀ c ∈ before, isBlank c = true) ∧ (∀ c ∈ after, isBlank c = true) ∧
      text = before ++ trim text ++ after := by
  obtain ⟨before, blanksBefore, splitStart⟩ := exists_blanks_trimStart text
  obtain ⟨after, blanksAfter, splitEnd⟩ := exists_blanks_trimEnd (trimStart text)
  refine ⟨before, after, blanksBefore, blanksAfter, ?_⟩
  rw [List.append_assoc, trim, ← splitEnd, ← splitStart]

/-- What occurs in joined pieces stands between them or in one of them. -/
theorem mem_of_mem_intercalate {α : Type} {pieces : List (List α)} {separator : List α} {c : α}
    (member : c ∈ separator.intercalate pieces) :
    c ∈ separator ∨ ∃ piece ∈ pieces, c ∈ piece := by
  induction pieces with
  | nil => simp at member
  | cons piece pieces ih =>
    by_cases last : pieces = []
    · subst last
      exact .inr ⟨piece, by simp, by simpa using member⟩
    · rw [List.intercalate_cons_of_ne_nil last, List.append_assoc, List.mem_append,
        List.mem_append] at member
      rcases member with here | between | later
      · exact .inr ⟨piece, by simp, here⟩
      · exact .inl between
      · exact (ih later).imp_right fun ⟨other, inPieces, inOther⟩ =>
          ⟨other, List.mem_cons_of_mem _ inPieces, inOther⟩

theorem isUpper_iff {c : Char} : c.isUpper = true ↔ 65 ≤ c.toNat ∧ c.toNat ≤ 90 :=
  decide_eq_true_iff

theorem isLower_iff {c : Char} : c.isLower = true ↔ 97 ≤ c.toNat ∧ c.toNat ≤ 122 := by
  change (decide (97 ≤ c.toNat) && decide (c.toNat ≤ 122)) = true ↔ _
  rw [Bool.and_eq_true, decide_eq_true_iff, decide_eq_true_iff]

theorem isAlpha_iff {c : Char} :
    c.isAlpha = true ↔ (65 ≤ c.toNat ∧ c.toNat ≤ 90) ∨ (97 ≤ c.toNat ∧ c.toNat ≤ 122) := by
  rw [← isUpper_iff, ← isLower_iff, ← Bool.or_eq_true]
  rfl

/-- No letter is white space, so trimming takes nothing away from a run. -/
theorem isBlank_of_isAlpha {c : Char} (letter : c.isAlpha = true) : isBlank c = false := by
  rw [← Bool.not_eq_true]
  intro blank
  simp only [isBlank, Bool.or_eq_true, Bool.and_eq_true, decide_eq_true_eq, beq_iff_eq] at blank
  have range := isAlpha_iff.mp letter
  omega

end ScoreSieve.Text
