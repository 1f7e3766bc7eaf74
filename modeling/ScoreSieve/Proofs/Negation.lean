import ScoreSieve.Filter.Reader
import ScoreSieve.Proofs.Legacy
import ScoreSieve.Proofs.Synonym

namespace ScoreSieve

namespace Pattern

def negate (pattern : Pattern) : Pattern :=
  { pattern with inverted := !pattern.inverted }

theorem accepts_negate (pattern : Pattern) (candidate : List Mod) :
    pattern.negate.accepts candidate = !pattern.accepts candidate := by
  have groups : pattern.negate.normalize.admits (applied candidate) =
      pattern.normalize.admits (applied candidate) := rfl
  rw [accepts_eq_evaluate, accepts_eq_evaluate, evaluate, evaluate, groups, negate, Bool.xor_not]

theorem merge_negate (pattern : Pattern) (a b : Mod) :
    pattern.negate.merge a b = (pattern.merge a b).negate := rfl

theorem counterpart?_negate (pattern : Pattern) (a b : Mod) :
    pattern.negate.counterpart? a b = (pattern.counterpart? a b).map negate := by
  by_cases favoured : pattern.groups.any (·.favours a b) = true <;>
    simp [counterpart?, negate, favoured]

theorem permit_negate (pattern : Pattern) (legacy : Mod) :
    pattern.negate.permit legacy = (pattern.permit legacy).negate := by
  have same : pattern.negate.isConstrained = pattern.isConstrained := rfl
  rw [permit, permit, same]
  split <;> rfl

/-- `NM` with the legacy modifier permitted still accepts only what has no modifier. -/
theorem accepts_permit_requiring_noMod (legacy : Mod) (candidate : List Mod) :
    ((requiring Mod.noMod).permit legacy).accepts candidate =
      decide (appliedSet candidate = ∅) := by
  have admits : ((requiring Mod.noMod).permit legacy).Admits (appliedSet candidate) ↔
      appliedSet candidate = ∅ := by
    rw [admits_permit_iff, isMet_requiring_iff, noMod_mem_effective_iff]
    refine and_iff_left_of_imp fun none _ mod isApplied => ?_
    simp [none] at isApplied
  rw [accepts_eq_evaluate, evaluate_eq_meaning, meaning, inverted_permit]
  simp only [admits]
  exact Bool.xor_false _

end Pattern

namespace Filter

/-- The filter with every pattern inverted. -/
def negatePatterns (filter : Filter) : Filter :=
  { filter with patterns := filter.patterns.map Pattern.negate }

/-- Treating two modifiers as synonyms commutes with inverting every pattern, because counterparts
are made of groups alone. -/
theorem interchange_negatePatterns (filter : Filter) (a b : Mod) :
    filter.negatePatterns.interchange a b = (filter.interchange a b).negatePatterns := by
  unfold interchange
  split
  · rfl
  · simp only [negatePatterns, List.map_append, List.map_map, List.map_filterMap,
      List.filterMap_map, Function.comp_def, Pattern.merge_negate, Pattern.counterpart?_negate]

theorem interchangeAll_negatePatterns (pairs : List (Mod × Mod)) (filter : Filter) :
    Rules.interchangeAll pairs filter.negatePatterns =
      (Rules.interchangeAll pairs filter).negatePatterns := by
  induction pairs generalizing filter with
  | nil => rfl
  | cons pair pairs ih =>
    obtain ⟨a, b⟩ := pair
    have step := ih (filter.interchange a b)
    rwa [← interchange_negatePatterns] at step

/-- Letting in the legacy modifier commutes with inverting every pattern, unless one of the two
filters is `+NM`. -/
theorem allowLegacy_negatePatterns {filter : Filter} (plain : filter ≠ onlyNoMod)
    (negated : filter.negatePatterns ≠ onlyNoMod) (legacy : Mod) :
    filter.negatePatterns.allowLegacy legacy = (filter.allowLegacy legacy).negatePatterns := by
  rw [allowLegacy_eq_map plain, allowLegacy_eq_map negated]
  simp only [negatePatterns, List.map_map, Function.comp_def, Pattern.permit_negate]

/-- A filter with patterns accepts what one of them accepts, or what none does if the filter is
inverted. -/
theorem accepts_eq_any {filter : Filter} (some : filter.patterns ≠ []) (candidate : List Mod) :
    filter.accepts candidate = (filter.patterns.any (·.accepts candidate) ^^ filter.inverted) := by
  have occupied : filter.patterns.isEmpty = false := by simpa using some
  simp only [accepts_eq_any_evaluate, occupied, Bool.false_or, Pattern.accepts_eq_evaluate]

/-- A filter with alternatives that are all plain, for which `+` stands. -/
structure IsPlain (filter : Filter) : Prop where
  some : filter.patterns ≠ []
  patterns : ∀ pattern ∈ filter.patterns, pattern.inverted = false
  inverted : filter.inverted = false

theorem IsPlain.interchange {filter : Filter} (plain : filter.IsPlain) (a b : Mod) :
    (filter.interchange a b).IsPlain where
  some := by
    unfold Filter.interchange
    split
    · exact plain.some
    · simpa using fun none => absurd none plain.some
  patterns := forall_mem_interchange plain.patterns (fun _ _ upright => upright)
    fun _ _ upright => upright
  inverted := by simp [plain.inverted]

theorem IsPlain.interchangeAll {filter : Filter} (plain : filter.IsPlain)
    (pairs : List (Mod × Mod)) : (Rules.interchangeAll pairs filter).IsPlain := by
  induction pairs generalizing filter with
  | nil => exact plain
  | cons pair pairs ih => exact ih (plain.interchange pair.1 pair.2)

theorem IsPlain.allowLegacy {filter : Filter} (plain : filter.IsPlain) (legacy : Mod) :
    (filter.allowLegacy legacy).IsPlain := by
  unfold Filter.allowLegacy
  split
  · refine ⟨by simp, ?_, plain.inverted⟩
    intro pattern member
    rcases List.mem_append.mp member with original | added
    · exact plain.patterns pattern original
    · rw [List.mem_singleton.mp added]
  · refine ⟨by simpa using plain.some, ?_, plain.inverted⟩
    intro pattern member
    obtain ⟨origin, inPatterns, rfl⟩ := List.mem_map.mp member
    rw [Pattern.inverted_permit]
    exact plain.patterns origin inPatterns

/-- Inverting the patterns of a plain filter never gives `+NM`, whose only pattern is not
inverted. -/
theorem IsPlain.negatePatterns_ne {filter : Filter} (plain : filter.IsPlain) :
    filter.negatePatterns ≠ onlyNoMod := by
  intro same
  obtain ⟨pattern, member⟩ := List.exists_mem_of_ne_nil _ plain.some
  have inverted : pattern.negate ∈ onlyNoMod.patterns := same ▸ List.mem_map_of_mem member
  have mark := congrArg Pattern.inverted (List.mem_singleton.mp inverted)
  simp [Pattern.negate, plain.patterns pattern member, Pattern.requiring] at mark

/-- Plain alternatives refuse what each of them refuses. -/
theorem IsPlain.refuses_iff {filter : Filter} (plain : filter.IsPlain) (candidate : List Mod) :
    filter.accepts candidate = false ↔
      ∀ pattern ∈ filter.patterns, pattern.accepts candidate = false := by
  rw [accepts_eq_any plain.some]
  simp [plain.inverted]

/-- Inverted one by one, they accept what some of them refuses. -/
theorem IsPlain.negatePatterns_accepts_iff {filter : Filter} (plain : filter.IsPlain)
    (candidate : List Mod) :
    filter.negatePatterns.accepts candidate = true ↔
      ∃ pattern ∈ filter.patterns, pattern.accepts candidate = false := by
  rw [accepts_eq_any (by simpa [negatePatterns] using plain.some)]
  simp [negatePatterns, plain.inverted, Pattern.accepts_negate]

/-- `^NM` with the legacy modifier permitted accepts whatever has a modifier. -/
theorem accepts_allowLegacy_negated (legacy : Mod) (candidate : List Mod) :
    (onlyNoMod.negatePatterns.allowLegacy legacy).accepts candidate =
      decide (appliedSet candidate ≠ ∅) := by
  have plain : onlyNoMod.IsPlain :=
    ⟨List.cons_ne_nil _ _, by simp [onlyNoMod, Pattern.requiring], rfl⟩
  rw [allowLegacy_eq_map plain.negatePatterns_ne,
    accepts_eq_any (by simp [negatePatterns, onlyNoMod])]
  simp [negatePatterns, onlyNoMod, Pattern.permit_negate, Pattern.accepts_negate,
    Pattern.accepts_permit_requiring_noMod]

end Filter

namespace Rules

/-- Holds if the rules add the legacy modifier as an alternative: they let it in, and the pairs of
synonyms leave `+NM` of the filter. -/
def AddsAlternative (rules : Rules) (filter : Filter) : Prop :=
  rules.allowLegacy = true ∧ interchangeAll rules.synonyms filter = Filter.onlyNoMod

instance (rules : Rules) (filter : Filter) : Decidable (rules.AddsAlternative filter) :=
  inferInstanceAs (Decidable (_ ∧ _))

variable {rules : Rules} {filter : Filter}

theorem isPlain_apply (plain : filter.IsPlain) : (rules.apply filter).IsPlain := by
  rw [apply_eq]
  split
  · exact (plain.interchangeAll _).allowLegacy _
  · exact plain.interchangeAll _

/-- The rules of a profile commute with inverting every pattern, unless they add an alternative to
`+NM`. -/
theorem apply_negatePatterns (plain : filter.IsPlain) (none : ¬ rules.AddsAlternative filter) :
    rules.apply filter.negatePatterns = (rules.apply filter).negatePatterns := by
  have merged := plain.interchangeAll rules.synonyms
  rw [apply_eq, apply_eq, Filter.interchangeAll_negatePatterns]
  split
  next permitted =>
    exact Filter.allowLegacy_negatePatterns (fun same => none ⟨permitted, same⟩)
      merged.negatePatterns_ne _
  next => rfl

/-- Where the rules add an alternative, both filters consist of `NM` alone before that. -/
theorem apply_of_addsAlternative (adds : rules.AddsAlternative filter) :
    rules.apply filter = Filter.onlyNoMod.allowLegacy rules.legacyMod ∧
      rules.apply filter.negatePatterns =
        Filter.onlyNoMod.negatePatterns.allowLegacy rules.legacyMod := by
  obtain ⟨permitted, only⟩ := adds
  rw [apply_eq, apply_eq, if_pos permitted, if_pos permitted,
    Filter.interchangeAll_negatePatterns, only]
  exact ⟨rfl, rfl⟩

end Rules

/-- The rules of a profile and the inversion of a pattern. A candidate that the rewritten pattern
refuses, the rewritten inversion accepts; the converse holds where the rules make one pattern of
it. In general both make alternatives, and the inversion accepts what some alternative refuses,
unless the rules add the legacy modifier to `+NM`: then both accept that modifier alone. -/
theorem rewritten_inversion_accepts_iff (rules : Rules) (groups : List Group)
    (candidate : List Mod) :
    let plain : Filter := ⟨[⟨groups, false⟩], false⟩
    let negated : Filter := ⟨[⟨groups, true⟩], false⟩
    ((rules.apply plain).accepts candidate = false →
      (rules.apply negated).accepts candidate = true) ∧
    ((rules.apply plain).patterns.length = 1 →
      ((rules.apply negated).accepts candidate = true ↔
        (rules.apply plain).accepts candidate = false)) ∧
    (¬ rules.AddsAlternative plain →
      ((rules.apply negated).accepts candidate = true ↔
        ∃ pattern ∈ (rules.apply plain).patterns, pattern.accepts candidate = false)) ∧
    (rules.AddsAlternative plain →
      ((rules.apply plain).accepts candidate = true ∧
          (rules.apply negated).accepts candidate = true ↔
        appliedSet candidate = {rules.legacyMod})) := by
  intro plain negated
  have isPlain : plain.IsPlain := ⟨List.cons_ne_nil _ _, by simp [plain], rfl⟩
  have inversion : negated = plain.negatePatterns := rfl
  by_cases adds : rules.AddsAlternative plain
  · obtain ⟨ofPlain, ofNegated⟩ := Rules.apply_of_addsAlternative adds
    have alternatives : (Filter.onlyNoMod.allowLegacy rules.legacyMod).patterns.length = 2 := rfl
    rw [inversion, ofPlain, ofNegated, Filter.accepts_allowLegacy_onlyNoMod,
      Filter.accepts_allowLegacy_negated, alternatives]
    refine ⟨?_, by simp, fun none => absurd adds none, fun _ => ?_⟩
    · simpa using fun some _ => some
    · by_cases none : appliedSet candidate = ∅
      · simp [none, (Finset.singleton_ne_empty rules.legacyMod).symm]
      · simp [none]
  · have rewritten : (rules.apply plain).IsPlain := Rules.isPlain_apply isPlain
    have refused := rewritten.refuses_iff candidate
    have ofNegated := rewritten.negatePatterns_accepts_iff candidate
    rw [← Rules.apply_negatePatterns isPlain adds, ← inversion] at ofNegated
    refine ⟨?_, ?_, fun _ => ofNegated, fun other => absurd other adds⟩
    · intro none
      obtain ⟨pattern, member⟩ := List.exists_mem_of_ne_nil _ rewritten.some
      exact ofNegated.mpr ⟨pattern, member, refused.mp none pattern member⟩
    · intro single
      obtain ⟨pattern, alone⟩ := List.length_eq_one_iff.mp single
      rw [ofNegated, refused, alone]
      simp

/-- The rules keep the inversion of `+HDDT`, of which they make `+HD[DTNC]`. Of `+HD(DT)` they make
two patterns, and its inversion accepts `HDDT` for the sake of the second. With the legacy modifier
let in, both `+NM` and its inversion accept it. -/
theorem rewritten_inversion_of_pair :
    let hidden : Mod := ⟨['H', 'D']⟩
    let doubleTime : Mod := ⟨['D', 'T']⟩
    let base : Rules := {}
    let lenient : Rules := { allowLegacy := true }
    let both : List Group := [Group.ofMods .required [hidden, doubleTime]]
    let either : List Group :=
      [Group.ofMods .required [hidden], Group.ofMods .optional [doubleTime]]
    let nothing : List Group := [Group.ofMods .required [Mod.noMod]]
    (base.apply ⟨[⟨both, false⟩], false⟩).patterns.length = 1 ∧
      ((base.apply ⟨[⟨both, true⟩], false⟩).accepts [hidden, doubleTime] = true ↔
        (base.apply ⟨[⟨both, false⟩], false⟩).accepts [hidden, doubleTime] = false) ∧
      (base.apply ⟨[⟨both, false⟩], false⟩).accepts [] = false ∧
      (base.apply ⟨[⟨both, true⟩], false⟩).accepts [] = true ∧
      ¬ base.AddsAlternative ⟨[⟨either, false⟩], false⟩ ∧
      ((base.apply ⟨[⟨either, true⟩], false⟩).accepts [hidden, doubleTime] = true ↔
        ∃ pattern ∈ (base.apply ⟨[⟨either, false⟩], false⟩).patterns,
          pattern.accepts [hidden, doubleTime] = false) ∧
      lenient.AddsAlternative ⟨[⟨nothing, false⟩], false⟩ ∧
      ((lenient.apply ⟨[⟨nothing, false⟩], false⟩).accepts [Mod.classic] = true ∧
          (lenient.apply ⟨[⟨nothing, true⟩], false⟩).accepts [Mod.classic] = true ↔
        appliedSet [Mod.classic] = {Mod.classic}) := by
  intro hidden doubleTime base lenient both either nothing
  have single : (base.apply ⟨[⟨both, false⟩], false⟩).patterns.length = 1 := by decide
  have refused : (base.apply ⟨[⟨both, false⟩], false⟩).accepts [] = false := by decide
  have two : ¬ base.AddsAlternative ⟨[⟨either, false⟩], false⟩ := by decide
  have adds : lenient.AddsAlternative ⟨[⟨nothing, false⟩], false⟩ := by decide
  exact ⟨single, (rewritten_inversion_accepts_iff base both _).2.1 single, refused,
    (rewritten_inversion_accepts_iff base both _).1 refused, two,
    (rewritten_inversion_accepts_iff base either _).2.2.1 two, adds,
    (rewritten_inversion_accepts_iff lenient nothing _).2.2.2 adds⟩

/-- The rules do not keep the inversion of every pattern. Of `+[DTHR]` they make `+[DTHR],[NCHR]`,
which accepts `DT`, and of `+^[DTHR]` they make `+^[DTHR],^[NCHR]`, which accepts `DT` as well. -/
theorem inversion_lost_by_counterpart :
    let groups : List Group := [Group.ofMods .exclusive [⟨['D', 'T']⟩, ⟨['H', 'R']⟩]]
    let rules : Rules := {}
    Filter.parse "+[DTHR]".toList = .ok ⟨[⟨groups, false⟩], false⟩ ∧
      Filter.parse "+^[DTHR]".toList = .ok ⟨[⟨groups, true⟩], false⟩ ∧
      ¬ ((rules.apply ⟨[⟨groups, true⟩], false⟩).accepts [⟨['D', 'T']⟩] = true ↔
        ¬ (rules.apply ⟨[⟨groups, false⟩], false⟩).accepts [⟨['D', 'T']⟩] = true) :=
  ⟨by decide +kernel, by decide +kernel, by decide⟩

end ScoreSieve
