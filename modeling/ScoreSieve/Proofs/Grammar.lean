import Mathlib.Data.List.Forall2
import ScoreSieve.Filter.Written
import ScoreSieve.Filter.Reader
import ScoreSieve.Proofs.Trimming

namespace ScoreSieve

/-- A non-empty run of two-letter codes spells the modifiers that it names, in upper case. -/
inductive SpellsMods : List Char → List Mod → Prop
  | last {a b} : a.isAlpha = true → b.isAlpha = true →
      SpellsMods [a, b] [⟨[a.toUpper, b.toUpper]⟩]
  | next {a b run mods} : a.isAlpha = true → b.isAlpha = true → SpellsMods run mods →
      SpellsMods (a :: b :: run) (⟨[a.toUpper, b.toUpper]⟩ :: mods)

/-- A pattern body spells its groups: a required group for each bare run, which reaches as far as
there are letters, and a group of the kind of its brackets for each run between brackets. Of equal
modifiers in a run the group keeps the first. -/
inductive SpellsGroups : List Char → List Group → Prop
  | nil : SpellsGroups [] []
  | bare {run mods rest groups} : SpellsMods run mods → (∀ c ∈ rest.head?, c.isAlpha = false) →
      SpellsGroups rest groups →
      SpellsGroups (run ++ rest) (Group.ofMods .required mods :: groups)
  | bracketed {kind opening closing run mods rest groups} :
      Kind.brackets? kind = some (opening, closing) → SpellsMods run mods →
      SpellsGroups rest groups →
      SpellsGroups (opening :: run ++ closing :: rest) (Group.ofMods kind mods :: groups)

/-- A pattern is one or more groups, behind one `^` if it is inverted. -/
inductive SpellsPattern : List Char → Pattern → Prop
  | plain {body groups} : SpellsGroups body groups → groups ≠ [] →
      SpellsPattern body ⟨groups, false⟩
  | inverted {body groups} : SpellsGroups body groups → groups ≠ [] →
      SpellsPattern ('^' :: body) ⟨groups, true⟩

/-- A filter is a sign with one or more patterns behind it, separated by commas. -/
inductive SpellsFilter : List Char → Filter → Prop
  | plain {pieces patterns} : List.Forall₂ SpellsPattern pieces patterns → pieces ≠ [] →
      SpellsFilter ('+' :: [','].intercalate pieces) ⟨patterns, false⟩
  | inverted {pieces patterns} : List.Forall₂ SpellsPattern pieces patterns → pieces ≠ [] →
      SpellsFilter ('-' :: [','].intercalate pieces) ⟨patterns, true⟩

/-- An expression is a filter, strict if white space and one `!` may follow it and do. -/
inductive SpellsExpression : List Char → Expression → Prop
  | lenient {text filter} : SpellsFilter text filter → SpellsExpression text ⟨filter, false⟩
  | strict {text blanks filter} : SpellsFilter text filter →
      (∀ c ∈ blanks, Text.isBlank c = true) →
      SpellsExpression (text ++ blanks ++ ['!']) ⟨filter, true⟩

theorem SpellsMods.ne_nil {run : List Char} {mods : List Mod} (spelled : SpellsMods run mods) :
    run ≠ [] := by
  cases spelled <;> exact List.cons_ne_nil _ _

/-- A run that spells modifiers has nothing but letters in it, and so no white space and no
brackets. -/
theorem SpellsMods.letters {run : List Char} {mods : List Mod} (spelled : SpellsMods run mods) :
    ∀ c ∈ run, c.isAlpha = true := by
  induction spelled with
  | last first second => simp [first, second]
  | next first second _ ih => simpa [first, second] using ih

theorem isBracket_iff {c : Char} :
    isBracket c = true ↔ c = '(' ∨ c = ')' ∨ c = '[' ∨ c = ']' ∨ c = '{' ∨ c = '}' := by
  simp [isBracket]

theorem isBracket_of_isAlpha {c : Char} (letter : c.isAlpha = true) : isBracket c = false := by
  rw [← Bool.not_eq_true]
  intro bracket
  rcases isBracket_iff.mp bracket with rfl | rfl | rfl | rfl | rfl | rfl <;> simp at letter

theorem isBracket_of_brackets {kind : Kind} {opening closing : Char}
    (brackets : kind.brackets? = some (opening, closing)) :
    isBracket opening = true ∧ isBracket closing = true := by
  cases kind <;> simp only [Kind.brackets?, Option.some.injEq, Prod.mk.injEq, reduceCtorEq] at brackets <;>
    obtain ⟨rfl, rfl⟩ := brackets <;> decide

/-- A pattern body holds letters and brackets only. -/
theorem SpellsGroups.chars {body : List Char} {groups : List Group}
    (spelled : SpellsGroups body groups) : ∀ c ∈ body, c.isAlpha = true ∨ isBracket c = true := by
  induction spelled with
  | nil => simp
  | bare mods _ _ ih =>
    intro c member
    rcases List.mem_append.mp member with inRun | inRest
    · exact .inl (mods.letters c inRun)
    · exact ih c inRest
  | bracketed brackets mods _ ih =>
    obtain ⟨opens, closes⟩ := isBracket_of_brackets brackets
    intro c member
    rcases List.mem_cons.mp member with rfl | inner
    · exact .inr opens
    rcases List.mem_append.mp inner with inRun | outer
    · exact .inl (mods.letters c inRun)
    rcases List.mem_cons.mp outer with rfl | inRest
    · exact .inr closes
    · exact ih c inRest

/-- Each piece between commas spells one of the patterns, and each pattern is spelled by a piece. -/
theorem exists_spelled {pieces : List (List Char)} {patterns : List Pattern}
    (spelled : List.Forall₂ SpellsPattern pieces patterns) :
    (∀ piece ∈ pieces, ∃ pattern, SpellsPattern piece pattern) ∧
      ∀ pattern ∈ patterns, ∃ piece, SpellsPattern piece pattern := by
  induction spelled with
  | nil => simp
  | cons first _ ih =>
    exact ⟨List.forall_mem_cons.mpr ⟨⟨_, first⟩, ih.1⟩,
      List.forall_mem_cons.mpr ⟨⟨_, first⟩, ih.2⟩⟩

end ScoreSieve
