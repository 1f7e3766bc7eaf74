import Mathlib.Data.List.Chain
import ScoreSieve.Proofs.Reading

namespace ScoreSieve

/-- Holds of a modifier of exactly two upper-case letters. -/
def Mod.IsCode (mod : Mod) : Prop :=
  mod.letters.length = 2 ∧ ∀ c ∈ mod.letters, c.isUpper = true

instance (mod : Mod) : Decidable mod.IsCode :=
  decidable_of_iff (mod.letters.length = 2 ∧ mod.letters.all Char.isUpper = true) (by
    rw [Mod.IsCode, List.all_eq_true])

/-- Two required groups in a row would be written as one run. -/
def Group.Apart (group next : Group) : Prop :=
  ¬ (group.kind = .required ∧ next.kind = .required)

/-- What a text can say of a group. That it holds no modifier twice is part of its type. -/
structure Group.IsCanonical (group : Group) : Prop where
  some : group.mods ≠ []
  codes : ∀ mod ∈ group.mods, mod.IsCode

structure Pattern.IsCanonical (pattern : Pattern) : Prop where
  some : pattern.groups ≠ []
  groups : ∀ group ∈ pattern.groups, group.IsCanonical
  apart : pattern.groups.IsChain Group.Apart

/-- What a text can say of a filter. -/
structure Filter.IsCanonical (filter : Filter) : Prop where
  some : filter.patterns ≠ []
  patterns : ∀ pattern ∈ filter.patterns, pattern.IsCanonical

/-- An upper-case letter is its own upper case, so written codes are not changed by reading. -/
theorem toUpper_of_isUpper {c : Char} (upper : c.isUpper = true) : c.toUpper = c := by
  have notLower : ¬ (c.val ≥ 'a'.val ∧ c.val ≤ 'z'.val) := by
    intro lower
    have above : 97 ≤ c.toNat := lower.1
    have range := Text.isUpper_iff.mp upper
    omega
  exact dif_neg notLower

/-- Letters, and only they, have an upper-case letter as upper case. -/
theorem isUpper_toUpper_iff {c : Char} : c.toUpper.isUpper = true ↔ c.isAlpha = true := by
  by_cases lower : c.val ≥ 'a'.val ∧ c.val ≤ 'z'.val
  · have range : 97 ≤ c.toNat ∧ c.toNat ≤ 122 := lower
    have code : c.toUpper.toNat = (c.toNat + 4294967264) % 2 ^ 32 := by
      rw [show c.toUpper = _ from dif_pos lower]
      exact UInt32.toNat_add ..
    rw [Text.isUpper_iff, Text.isAlpha_iff, code]
    omega
  · have same : c.toUpper = c := dif_neg lower
    have none : ¬ (97 ≤ c.toNat ∧ c.toNat ≤ 122) := lower
    rw [same, Text.isUpper_iff, Text.isAlpha_iff, or_iff_left none]

theorem Mod.IsCode.exists_letters {mod : Mod} (code : mod.IsCode) :
    ∃ a b, a.isUpper = true ∧ b.isUpper = true ∧ mod = ⟨[a, b]⟩ := by
  obtain ⟨letters⟩ := mod
  obtain ⟨a, b, rfl⟩ := List.length_eq_two.mp code.1
  exact ⟨a, b, code.2 a (by simp), code.2 b (by simp), rfl⟩

theorem SpellsMods.isCode {run : List Char} {mods : List Mod} (spelled : SpellsMods run mods) :
    ∀ mod ∈ mods, mod.IsCode := by
  have ofPair {a b : Char} (first : a.isAlpha = true) (second : b.isAlpha = true) :
      Mod.IsCode ⟨[a.toUpper, b.toUpper]⟩ :=
    ⟨rfl, List.forall_mem_cons.mpr ⟨isUpper_toUpper_iff.mpr first,
      List.forall_mem_singleton.mpr (isUpper_toUpper_iff.mpr second)⟩⟩
  induction spelled with
  | last first second => simpa using ofPair first second
  | next first second _ ih => exact List.forall_mem_cons.mpr ⟨ofPair first second, ih⟩

theorem SpellsMods.isCanonical {run : List Char} {mods : List Mod}
    (spelled : SpellsMods run mods) (kind : Kind) : (Group.ofMods kind mods).IsCanonical where
  some := by
    obtain ⟨mod, member⟩ : ∃ mod, mod ∈ mods := by
      cases spelled <;> exact ⟨_, List.mem_cons_self ..⟩
    exact List.ne_nil_of_mem (Group.mem_ofMods.mpr member)
  codes mod member := spelled.isCode mod (Group.mem_ofMods.mp member)

theorem brackets?_eq_none_iff {kind : Kind} : kind.brackets? = none ↔ kind = .required := by
  cases kind <;> simp [Kind.brackets?]

/-- A body that starts with a required group starts with a letter. -/
theorem SpellsGroups.head_isAlpha {body : List Char} {group : Group} {groups : List Group}
    (spelled : SpellsGroups body (group :: groups)) (required : group.kind = .required) :
    ∃ c ∈ body.head?, c.isAlpha = true := by
  cases spelled with
  | @bare run _ _ _ mods =>
    obtain ⟨c, run, rfl⟩ := List.exists_cons_of_ne_nil mods.ne_nil
    exact ⟨c, rfl, mods.letters c (by simp)⟩
  | bracketed brackets =>
    rw [Group.kind_ofMods] at required
    rw [brackets?_eq_none_iff.mpr required] at brackets
    cases brackets

/-- What a text spells is canonical. A required group behind the bare run would have been part of
that run. -/
theorem SpellsGroups.isCanonical {body : List Char} {groups : List Group}
    (spelled : SpellsGroups body groups) :
    (∀ group ∈ groups, group.IsCanonical) ∧ groups.IsChain Group.Apart := by
  induction spelled with
  | nil => simp
  | bare mods ends rest ih =>
    refine ⟨List.forall_mem_cons.mpr ⟨mods.isCanonical _, ih.1⟩, ih.2.cons ?_⟩
    intro next start both
    obtain ⟨later, rfl⟩ := List.head?_eq_some_iff.mp start
    obtain ⟨c, first, letter⟩ := rest.head_isAlpha both.2
    rw [ends c first] at letter
    exact absurd letter Bool.false_ne_true
  | bracketed brackets mods rest ih =>
    refine ⟨List.forall_mem_cons.mpr ⟨mods.isCanonical _, ih.1⟩, ih.2.cons ?_⟩
    intro next _ both
    have required := both.1
    rw [Group.kind_ofMods] at required
    rw [brackets?_eq_none_iff.mpr required] at brackets
    cases brackets

theorem SpellsPattern.isCanonical {text : List Char} {pattern : Pattern}
    (spelled : SpellsPattern text pattern) : pattern.IsCanonical := by
  cases spelled with
  | plain spelled some => exact ⟨some, spelled.isCanonical.1, spelled.isCanonical.2⟩
  | inverted spelled some => exact ⟨some, spelled.isCanonical.1, spelled.isCanonical.2⟩

theorem SpellsFilter.isCanonical {text : List Char} {filter : Filter}
    (spelled : SpellsFilter text filter) : filter.IsCanonical := by
  have ofPieces {pieces : List (List Char)} {patterns : List Pattern} {inverted : Bool}
      (spelled : List.Forall₂ SpellsPattern pieces patterns) (some : pieces ≠ []) :
      Filter.IsCanonical ⟨patterns, inverted⟩ := by
    refine ⟨?_, ?_⟩
    · rintro rfl
      exact some (List.forall₂_nil_right_iff.mp spelled)
    · intro pattern member
      obtain ⟨piece, spells⟩ := (exists_spelled spelled).2 pattern member
      exact spells.isCanonical
  cases spelled with
  | plain spelled some => exact ofPieces spelled some
  | inverted spelled some => exact ofPieces spelled some

theorem isAlpha_of_isUpper {c : Char} (upper : c.isUpper = true) : c.isAlpha = true :=
  Text.isAlpha_iff.mpr (.inl (Text.isUpper_iff.mp upper))

theorem isAlpha_of_isBracket {c : Char} (bracket : isBracket c = true) : c.isAlpha = false := by
  rw [← Bool.not_eq_true]
  intro letter
  rw [isBracket_of_isAlpha letter] at bracket
  exact absurd bracket Bool.false_ne_true

theorem spellsMods_concat {mods : List Mod} (some : mods ≠ [])
    (codes : ∀ mod ∈ mods, mod.IsCode) : SpellsMods (Mod.concat mods) mods := by
  induction mods with
  | nil => exact absurd rfl some
  | cons mod rest ih =>
    obtain ⟨code, others⟩ := List.forall_mem_cons.mp codes
    obtain ⟨a, b, first, second, rfl⟩ := code.exists_letters
    by_cases last : rest = []
    · subst last
      have spelled := SpellsMods.last (isAlpha_of_isUpper first) (isAlpha_of_isUpper second)
      rwa [toUpper_of_isUpper first, toUpper_of_isUpper second] at spelled
    · have spelled := SpellsMods.next (isAlpha_of_isUpper first) (isAlpha_of_isUpper second)
        (ih last others)
      rwa [toUpper_of_isUpper first, toUpper_of_isUpper second] at spelled

/-- A group is determined by its kind and its modifiers. -/
theorem Group.ofMods_mods (group : Group) : Group.ofMods group.kind group.mods = group := by
  obtain ⟨kind, mods, nodup⟩ := group
  simp [Group.ofMods, distinct_eq_self nodup]

/-- Behind a required group of a canonical pattern the text goes on with a bracket, if at all. -/
theorem head_text_of_apart {group : Group} {rest : List Group}
    (required : group.kind = .required) (apart : (group :: rest).IsChain Group.Apart) :
    ∀ c ∈ (rest.flatMap Group.text).head?, c.isAlpha = false := by
  intro c start
  cases rest with
  | nil => simp at start
  | cons next rest =>
    have bracketed : next.kind ≠ .required := fun same => apart.rel ⟨required, same⟩
    cases brackets : next.kind.brackets? with
    | none => exact absurd (brackets?_eq_none_iff.mp brackets) bracketed
    | some pair =>
      obtain ⟨opening, closing⟩ := pair
      simp only [List.flatMap_cons, Group.text, brackets, List.cons_append, List.head?_cons,
        Option.mem_def, Option.some.injEq] at start
      rw [← start]
      exact isAlpha_of_isBracket (isBracket_of_brackets brackets).1

/-- Canonical groups are spelled by their text, as long as no two required ones are neighbours. -/
theorem spellsGroups_text {groups : List Group} (canonical : ∀ group ∈ groups, group.IsCanonical)
    (apart : groups.IsChain Group.Apart) : SpellsGroups (groups.flatMap Group.text) groups := by
  induction groups with
  | nil => exact .nil
  | cons group rest ih =>
    obtain ⟨here, others⟩ := List.forall_mem_cons.mp canonical
    have mods := spellsMods_concat here.some here.codes
    have later := ih others apart.tail
    have same := group.ofMods_mods
    rw [List.flatMap_cons, Group.text]
    cases brackets : group.kind.brackets? with
    | none =>
      have required := brackets?_eq_none_iff.mp brackets
      have spelled := SpellsGroups.bare mods (head_text_of_apart required apart) later
      rwa [← required, same] at spelled
    | some pair =>
      have spelled := SpellsGroups.bracketed brackets mods later
      rw [same] at spelled
      simpa using spelled

theorem spellsPattern_text {pattern : Pattern} (canonical : pattern.IsCanonical) :
    SpellsPattern pattern.text pattern := by
  have body := spellsGroups_text canonical.groups canonical.apart
  obtain ⟨groups, inverted⟩ := pattern
  cases inverted with
  | false => exact .plain body canonical.some
  | true => exact .inverted body canonical.some

theorem spellsFilter_text {filter : Filter} (canonical : filter.IsCanonical) :
    SpellsFilter filter.text filter := by
  have pieces : List.Forall₂ SpellsPattern (filter.patterns.map Pattern.text) filter.patterns := by
    rw [List.forall₂_map_left_iff, List.forall₂_same]
    exact fun pattern member => spellsPattern_text (canonical.patterns pattern member)
  have some : filter.patterns.map Pattern.text ≠ [] := by simpa using canonical.some
  obtain ⟨patterns, inverted⟩ := filter
  cases inverted with
  | false => exact .plain pieces some
  | true => exact .inverted pieces some

/-- A canonical filter is read back from its text. -/
theorem Filter.parse_text {filter : Filter} (canonical : filter.IsCanonical) :
    Filter.parse filter.text = .ok filter :=
  Filter.parse_of_spelled (spellsFilter_text canonical)

/-- Every filter that is read is canonical. -/
theorem Filter.isCanonical_of_parse {text : List Char} {filter : Filter}
    (read : Filter.parse text = .ok filter) : filter.IsCanonical :=
  (Filter.parse_eq_ok_iff.mp read).isCanonical

theorem Expression.parse_text {expression : Expression}
    (canonical : expression.filter.IsCanonical) :
    Expression.parse expression.text = .ok expression := by
  have spelled := spellsFilter_text canonical
  obtain ⟨filter, strict⟩ := expression
  refine Expression.parse_of_spelled ?_
  cases strict with
  | false => simpa [Expression.text] using SpellsExpression.lenient spelled
  | true => simpa [Expression.text] using @SpellsExpression.strict _ [] _ spelled (by simp)

theorem Expression.isCanonical_of_parse {text : List Char} {expression : Expression}
    (read : Expression.parse text = .ok expression) : expression.filter.IsCanonical := by
  have spelled := Expression.parse_eq_ok_iff.mp read
  generalize Text.trim text = written at spelled
  cases spelled with
  | lenient spelled => exact spelled.isCanonical
  | strict spelled => exact spelled.isCanonical

/-- Writing undoes reading. What is read from a text is read again from its own text, and the
filters that can be read at all are the canonical ones. -/
theorem parse_text_round_trip :
    (∀ (text : List Char) (expression : Expression), Expression.parse text = .ok expression →
      Expression.parse expression.text = .ok expression) ∧
    (∀ (text : List Char) (filter : Filter), Filter.parse text = .ok filter →
      Filter.parse filter.text = .ok filter) ∧
    (∀ filter : Filter, (∃ text, Filter.parse text = .ok filter) ↔ filter.IsCanonical) ∧
    ∀ filter : Filter, filter.IsCanonical → Filter.parse filter.text = .ok filter := by
  refine ⟨?_, ?_, ?_, fun _ => Filter.parse_text⟩
  · exact fun _ _ read => Expression.parse_text (Expression.isCanonical_of_parse read)
  · exact fun _ _ read => Filter.parse_text (Filter.isCanonical_of_parse read)
  · intro filter
    constructor
    · rintro ⟨text, read⟩
      exact Filter.isCanonical_of_parse read
    · exact fun canonical => ⟨filter.text, Filter.parse_text canonical⟩

/-- The brackets keep the two required groups of `CL(NM)CL` apart in the text as well. -/
theorem parse_text_of_separate_runs :
    let filter : Filter :=
      ⟨[⟨[Group.ofMods .required [Mod.classic], Group.ofMods .optional [Mod.noMod],
        Group.ofMods .required [Mod.classic]], true⟩], true⟩
    Expression.parse " -^cl(nmNM)Cl !".toList = .ok ⟨filter, true⟩ ∧
      Expression.parse (Expression.text ⟨filter, true⟩) = .ok ⟨filter, true⟩ ∧
      Filter.parse "-^clCL(nm)cl".toList = .ok filter ∧ filter.IsCanonical ∧
      Filter.parse filter.text = .ok filter := by
  intro filter
  obtain ⟨ofExpression, ofFilter, canonical, _⟩ := parse_text_round_trip
  have readExpression : Expression.parse " -^cl(nmNM)Cl !".toList = .ok ⟨filter, true⟩ := by
    decide +kernel
  have readFilter : Filter.parse "-^clCL(nm)cl".toList = .ok filter := by decide +kernel
  exact ⟨readExpression, ofExpression _ _ readExpression, readFilter,
    (canonical filter).mp ⟨_, readFilter⟩, ofFilter _ _ readFilter⟩

end ScoreSieve
