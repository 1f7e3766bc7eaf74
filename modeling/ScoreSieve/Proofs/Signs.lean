import ScoreSieve.Proofs.Negation
import ScoreSieve.Proofs.OnlyNoMod
import ScoreSieve.Proofs.Reread

namespace ScoreSieve

/-- A text behind `-` spells the inverse of what it spells behind `+`. -/
theorem SpellsFilter.negative {rest : List Char} {filter : Filter}
    (spelled : SpellsFilter ('+' :: rest) filter) :
    SpellsFilter ('-' :: rest) filter.invert ∧ filter.inverted = false := by
  cases spelled with
  | plain pieces some => exact ⟨.inverted pieces some, rfl⟩

theorem SpellsExpression.negative {rest : List Char} {filter : Filter} {strict : Bool}
    (spelled : SpellsExpression ('+' :: rest) ⟨filter, strict⟩) :
    SpellsExpression ('-' :: rest) ⟨filter.invert, strict⟩ ∧ filter.inverted = false := by
  generalize whole : '+' :: rest = text at spelled
  cases spelled with
  | lenient spelled =>
    obtain ⟨negative, upright⟩ := SpellsFilter.negative (whole ▸ spelled)
    exact ⟨.lenient negative, upright⟩
  | @strict core blanks _ spelled blank =>
    cases core with
    | nil => cases spelled
    | cons sign core =>
      obtain ⟨rfl, same⟩ := List.cons.inj whole
      obtain ⟨negative, upright⟩ := spelled.negative
      rw [same]
      exact ⟨.strict negative blank, upright⟩

/-- What can be read behind `+` can be read behind `-`, as the inverted filter. -/
theorem Expression.parse_negative {body : List Char} {expression : Expression}
    (read : Expression.parse ('+' :: body) = .ok expression) :
    Expression.parse ('-' :: body) = .ok ⟨expression.filter.invert, expression.strict⟩ ∧
      expression.filter.inverted = false := by
  rw [Expression.parse_eq_ok_iff, Text.trim_cons (by decide)] at read ⊢
  exact read.negative

namespace Filter

theorem accepts_invert (filter : Filter) (candidate : List Mod) :
    filter.invert.accepts candidate = !filter.accepts candidate := by
  rw [accepts_eq_any_evaluate, accepts_eq_any_evaluate, invert, Bool.xor_not]

/-- Treating two modifiers as synonyms commutes with inverting the whole filter. -/
theorem interchange_invert (filter : Filter) (a b : Mod) :
    filter.invert.interchange a b = (filter.interchange a b).invert := by
  unfold interchange
  split <;> rfl

theorem interchangeAll_invert (pairs : List (Mod × Mod)) (filter : Filter) :
    Rules.interchangeAll pairs filter.invert = (Rules.interchangeAll pairs filter).invert := by
  induction pairs generalizing filter with
  | nil => rfl
  | cons pair pairs ih =>
    have step := ih (filter.interchange pair.1 pair.2)
    rwa [← interchange_invert] at step

theorem invert_ne_onlyNoMod {filter : Filter} (upright : filter.inverted = false) :
    filter.invert ≠ onlyNoMod := by
  intro same
  have sign := congrArg Filter.inverted same
  simp [invert, upright, onlyNoMod] at sign

/-- Letting in the legacy modifier commutes with inverting the whole filter, unless the filter is
`+NM`. -/
theorem allowLegacy_invert {filter : Filter} (upright : filter.inverted = false)
    (other : filter ≠ onlyNoMod) (legacy : Mod) :
    filter.invert.allowLegacy legacy = (filter.allowLegacy legacy).invert := by
  rw [allowLegacy_eq_map other, allowLegacy_eq_map (invert_ne_onlyNoMod upright)]
  rfl

/-- `-NM` with the legacy modifier permitted accepts whatever has a modifier. -/
theorem accepts_allowLegacy_invert_onlyNoMod (legacy : Mod) (candidate : List Mod) :
    (onlyNoMod.invert.allowLegacy legacy).accepts candidate =
      decide (appliedSet candidate ≠ ∅) := by
  rw [allowLegacy_eq_map (invert_ne_onlyNoMod rfl),
    accepts_eq_any (by simp [invert, onlyNoMod])]
  simp [invert, onlyNoMod, Pattern.accepts_permit_requiring_noMod]

end Filter

namespace Rules

variable {rules : Rules} {filter : Filter}

/-- The rules add an alternative to `+NM` itself, and only if no pair makes `NM` a synonym. -/
theorem addsAlternative_iff :
    rules.AddsAlternative filter ↔
      rules.allowLegacy = true ∧ filter = Filter.onlyNoMod ∧
        ¬ HasSynonym rules.synonyms Mod.noMod := by
  rw [AddsAlternative, interchangeAll_eq_onlyNoMod_iff]

/-- The other sign commutes with every rule but the one that adds an alternative to `+NM`. -/
theorem apply_invert (upright : filter.inverted = false) (none : ¬ rules.AddsAlternative filter) :
    rules.apply filter.invert = (rules.apply filter).invert := by
  rw [apply_eq, apply_eq, Filter.interchangeAll_invert]
  split
  next permitted =>
    have merged : (interchangeAll rules.synonyms filter).inverted = false := by
      rw [inverted_interchangeAll, upright]
    exact Filter.allowLegacy_invert merged (fun same => none ⟨permitted, same⟩) _
  next => rfl

/-- Where the rules add an alternative, the filters behind both signs consist of `NM` alone before
that. -/
theorem apply_invert_of_addsAlternative (adds : rules.AddsAlternative filter) :
    rules.apply filter = Filter.onlyNoMod.allowLegacy rules.legacyMod ∧
      rules.apply filter.invert = Filter.onlyNoMod.invert.allowLegacy rules.legacyMod := by
  obtain ⟨permitted, only⟩ := adds
  rw [apply_eq, apply_eq, if_pos permitted, if_pos permitted, Filter.interchangeAll_invert, only]
  exact ⟨rfl, rfl⟩

/-- Holds if the filter is `+NM`, the rules add the legacy modifier to it as an alternative, and the
candidate has that modifier alone. -/
def TakesLegacyAlone (rules : Rules) (filter : Filter) (candidate : List Mod) : Prop :=
  filter = Filter.onlyNoMod ∧ rules.allowLegacy = true ∧ ¬ HasSynonym rules.synonyms Mod.noMod ∧
    appliedSet candidate = {rules.legacyMod}

instance (rules : Rules) (filter : Filter) (candidate : List Mod) :
    Decidable (rules.TakesLegacyAlone filter candidate) :=
  inferInstanceAs (Decidable (_ ∧ _ ∧ _ ∧ _))

end Rules

/-- The two signs of an expression are complementary under every profile, unless the expression is
`NM` and the candidate has the legacy modifier alone: where the profile lets that in beside `+NM`,
it is kept under both signs. -/
theorem signs_complementary_unless_legacy_alone (profile : Profile) {body : List Char}
    {expression : Expression} (read : Expression.parse ('+' :: body) = .ok expression)
    (candidate : List Mod) :
    ∃ kept dropped, profile.build ('+' :: body) true = .ok kept ∧
      profile.build ('-' :: body) true = .ok dropped ∧
      (¬ profile.rules.TakesLegacyAlone expression.filter candidate →
        (dropped.filter.accepts candidate = true ↔ ¬ kept.filter.accepts candidate = true)) ∧
      (profile.rules.TakesLegacyAlone expression.filter candidate →
        kept.filter.accepts candidate = true ∧ dropped.filter.accepts candidate = true) := by
  obtain ⟨filter, strict⟩ := expression
  obtain ⟨negative, upright⟩ := Expression.parse_negative read
  refine ⟨⟨profile.rules.apply filter, strict⟩, ⟨profile.rules.apply filter.invert, strict⟩, ?_, ?_,
    ?_⟩
  · rw [Profile.build, read]
    rfl
  · rw [Profile.build, negative]
    rfl
  by_cases adds : profile.rules.AddsAlternative filter
  · obtain ⟨ofPlus, ofMinus⟩ := Rules.apply_invert_of_addsAlternative adds
    obtain ⟨permitted, only, real⟩ := Rules.addsAlternative_iff.mp adds
    have alone : profile.rules.TakesLegacyAlone filter candidate ↔
        appliedSet candidate = {profile.rules.legacyMod} := by
      simp [Rules.TakesLegacyAlone, permitted, only, real]
    rw [alone, ofPlus, ofMinus, Filter.accepts_allowLegacy_onlyNoMod,
      Filter.accepts_allowLegacy_invert_onlyNoMod]
    simp only [decide_eq_true_eq]
    refine ⟨fun other => ?_, fun same => ⟨.inr same, ?_⟩⟩
    · rw [or_iff_left other]
    · rw [same]
      exact Finset.singleton_ne_empty _
  · have complementary : (profile.rules.apply filter.invert).accepts candidate =
        !(profile.rules.apply filter).accepts candidate := by
      rw [Rules.apply_invert upright adds, Filter.accepts_invert]
    refine ⟨fun _ => ?_, fun ⟨only, permitted, real, _⟩ => ?_⟩
    · simp [complementary]
    · exact absurd (Rules.addsAlternative_iff.mpr ⟨permitted, only, real⟩) adds

/-- In the base profile `-hddt,^[ht fl]!` keeps what `+hddt,^[htfl]!` drops. With the legacy
modifier let in, `+NM` and `-NM` both keep it. -/
theorem signs_complementary_in_base :
    let base : Profile := {}
    let lenient : Profile := { rules := { allowLegacy := true } }
    let choice : Filter :=
      ⟨[⟨[Group.ofMods .required [⟨['H', 'D']⟩, ⟨['D', 'T']⟩]], false⟩,
        ⟨[Group.ofMods .exclusive [⟨['H', 'T']⟩, ⟨['F', 'L']⟩]], true⟩], false⟩
    let candidate : List Mod := [⟨['H', 'D']⟩, ⟨['N', 'C']⟩]
    Expression.parse "+hddt,^[htfl] !".toList = .ok ⟨choice, true⟩ ∧
      ¬ base.rules.TakesLegacyAlone choice candidate ∧
      (∃ kept dropped, base.build "+hddt,^[htfl] !".toList true = .ok kept ∧
        base.build "-hddt,^[htfl] !".toList true = .ok dropped ∧
        (dropped.filter.accepts candidate = true ↔ ¬ kept.filter.accepts candidate = true)) ∧
      Expression.parse "+NM".toList = .ok ⟨Filter.onlyNoMod, false⟩ ∧
      lenient.rules.TakesLegacyAlone Filter.onlyNoMod [Mod.classic] ∧
      ∃ kept dropped, lenient.build "+NM".toList true = .ok kept ∧
        lenient.build "-NM".toList true = .ok dropped ∧
        kept.filter.accepts [Mod.classic] = true ∧
        dropped.filter.accepts [Mod.classic] = true := by
  intro base lenient choice candidate
  have readChoice : Expression.parse "+hddt,^[htfl] !".toList = .ok ⟨choice, true⟩ := by
    decide +kernel
  have readNothing : Expression.parse "+NM".toList = .ok ⟨Filter.onlyNoMod, false⟩ := by
    decide +kernel
  have other : ¬ base.rules.TakesLegacyAlone choice candidate := by decide
  have alone : lenient.rules.TakesLegacyAlone Filter.onlyNoMod [Mod.classic] := by decide
  obtain ⟨kept, dropped, ofPlus, ofMinus, complementary, _⟩ :=
    signs_complementary_unless_legacy_alone base readChoice candidate
  obtain ⟨both, too, ofPlain, ofNegative, _, takes⟩ :=
    signs_complementary_unless_legacy_alone lenient readNothing [Mod.classic]
  exact ⟨readChoice, other, ⟨kept, dropped, ofPlus, ofMinus, complementary other⟩, readNothing,
    alone, ⟨both, too, ofPlain, ofNegative, takes alone⟩⟩

/-- The signs are not complementary throughout. With the legacy modifier let in, `+NM` becomes
`+NM,CL` and `-NM` becomes `-NM(CL)`, and both accept `CL`. -/
theorem signs_agree_on_legacy_alone :
    let profile : Profile := { rules := { allowLegacy := true } }
    let kept : Filter :=
      ⟨[Pattern.requiring Mod.noMod, Pattern.requiring Mod.classic], false⟩
    let dropped : Filter :=
      ⟨[⟨[Group.ofMods .required [Mod.noMod], Group.ofMods .optional [Mod.classic]], false⟩], true⟩
    profile.build "+NM".toList true = .ok ⟨kept, false⟩ ∧
      profile.build "-NM".toList true = .ok ⟨dropped, false⟩ ∧
      ¬ (dropped.accepts [Mod.classic] = true ↔ ¬ kept.accepts [Mod.classic] = true) :=
  ⟨by decide +kernel, by decide +kernel, by decide⟩

end ScoreSieve
