import ScoreSieve.Proofs.Legacy
import ScoreSieve.Proofs.Synonym

namespace ScoreSieve

/-- Holds if one of the pairs makes the modifier a synonym of another one. -/
def Rules.HasSynonym (pairs : List (Mod × Mod)) (mod : Mod) : Prop :=
  ∃ pair ∈ pairs, pair.1 ≠ pair.2 ∧ (mod = pair.1 ∨ mod = pair.2)

instance (pairs : List (Mod × Mod)) (mod : Mod) : Decidable (Rules.HasSynonym pairs mod) :=
  inferInstanceAs (Decidable (∃ pair ∈ pairs, _ ∧ _))

variable {a b : Mod}

theorem Group.merge_of_required {group : Group} (required : group.kind = .required)
    (keeps : group.demands a b = false) : group.merge a b = group := by
  simp [Group.merge, keeps, required]

theorem Group.demands_single_eq_false_iff {mod : Mod} :
    (Group.ofMods .required [mod]).demands a b = false ↔ mod ≠ a ∧ mod ≠ b := by
  simp [Group.demands, Group.mentions, @eq_comm _ mod]

namespace Pattern

variable {pattern : Pattern}

/-- Merging makes a pattern that asks for one modifier and nothing else out of that pattern only,
and only if the modifier is neither of the two. -/
theorem merge_eq_requiring_iff {mod : Mod} :
    pattern.merge a b = requiring mod ↔ pattern = requiring mod ∧ mod ≠ a ∧ mod ≠ b := by
  constructor
  · intro merged
    have idle : ∀ group ∈ pattern.groups, group.demands a b = false := by
      intro group member
      rw [← Bool.not_eq_true]
      intro demands
      have choice := choice_mem_merge member demands
      rw [merged, requiring, List.mem_singleton] at choice
      simpa using congrArg Group.kind choice
    have groups : pattern.groups.map (·.merge a b) = [Group.ofMods .required [mod]] := by
      have all := congrArg Pattern.groups merged
      simp only [merge] at all
      rwa [List.filter_eq_nil_iff.mpr fun group member => by simp [idle group member],
        List.map_nil, List.append_nil] at all
    obtain ⟨group, alone, same⟩ := List.map_eq_singleton_iff.mp groups
    have inGroups : group ∈ pattern.groups := by simp [alone]
    have required : group.kind = .required := by
      rw [← Group.kind_merge group a b, same, Group.kind_ofMods]
    rw [Group.merge_of_required required (idle group inGroups)] at same
    subst same
    have upright : pattern.inverted = false := congrArg Pattern.inverted merged
    refine ⟨?_, Group.demands_single_eq_false_iff.mp (idle _ inGroups)⟩
    rw [requiring, ← alone, ← upright]
  · rintro ⟨rfl, other⟩
    have idle := Group.demands_single_eq_false_iff.mpr other
    have same := Group.merge_of_required (Group.kind_ofMods .required [mod]) idle
    simp [merge, requiring, same, idle]

end Pattern

namespace Filter

variable {filter : Filter}

/-- Two different modifiers that are made synonyms give `+NM` exactly where they find it and neither
of them is `NM`. -/
theorem interchange_eq_onlyNoMod_iff (different : a ≠ b) :
    filter.interchange a b = onlyNoMod ↔
      filter = onlyNoMod ∧ Mod.noMod ≠ a ∧ Mod.noMod ≠ b := by
  rw [interchange, if_neg different]
  constructor
  · intro same
    obtain ⟨patterns, inverted⟩ := filter
    have upright : inverted = false := congrArg Filter.inverted same
    have merged := congrArg Filter.patterns same
    cases patterns with
    | nil => exact absurd merged.symm (List.cons_ne_nil _ _)
    | cons pattern rest =>
      obtain ⟨first, others⟩ := List.cons.inj merged
      have none : rest = [] := List.map_eq_nil_iff.mp (List.append_eq_nil_iff.mp others).1
      obtain ⟨rfl, other⟩ := Pattern.merge_eq_requiring_iff.mp first
      rw [upright, none]
      exact ⟨rfl, other⟩
  · rintro ⟨rfl, other⟩
    have merged := Pattern.merge_eq_requiring_iff.mpr ⟨rfl, other⟩
    simp only [onlyNoMod, List.map_cons, List.map_nil, merged]
    rfl

end Filter

/-- The pairs of a profile leave `+NM` of a filter only if it is that filter and none of them makes
`NM` a synonym. -/
theorem Rules.interchangeAll_eq_onlyNoMod_iff {pairs : List (Mod × Mod)} {filter : Filter} :
    interchangeAll pairs filter = Filter.onlyNoMod ↔
      filter = Filter.onlyNoMod ∧ ¬ HasSynonym pairs Mod.noMod := by
  induction pairs generalizing filter with
  | nil => simp [interchangeAll, HasSynonym]
  | cons pair pairs ih =>
    obtain ⟨a, b⟩ := pair
    have step : HasSynonym ((a, b) :: pairs) Mod.noMod ↔
        (a ≠ b ∧ (Mod.noMod = a ∨ Mod.noMod = b)) ∨ HasSynonym pairs Mod.noMod := by
      simp [HasSynonym]
    rw [interchangeAll_cons, ih, step, not_or, ← and_assoc]
    refine and_congr_left fun _ => ?_
    by_cases same : a = b
    · rw [Filter.interchange, if_pos same]
      simp [same]
    · rw [Filter.interchange_eq_onlyNoMod_iff same, not_and, not_or]
      exact and_congr_right fun _ => ⟨fun other _ => other, fun other => other same⟩

/-- If pairs make alike filters, and both or neither of them are `+NM`, the legacy rule keeps them
alike. -/
theorem Rules.alike_apply {rules other : Rules} {filter image : Filter}
    (allowLegacy : other.allowLegacy = rules.allowLegacy)
    (legacyMod : other.legacyMod = rules.legacyMod)
    (merged : (interchangeAll rules.synonyms filter).Alike (interchangeAll other.synonyms image))
    (only : interchangeAll other.synonyms image = Filter.onlyNoMod ↔
      interchangeAll rules.synonyms filter = Filter.onlyNoMod) :
    (rules.apply filter).Alike (other.apply image) := by
  have noModOnly : (interchangeAll other.synonyms image).isNoModOnly =
      (interchangeAll rules.synonyms filter).isNoModOnly := by
    rwa [Bool.eq_iff_iff, Filter.isNoModOnly_iff, Filter.isNoModOnly_iff]
  rw [apply_eq, apply_eq, allowLegacy, legacyMod]
  split
  · exact merged.allowLegacy rfl noModOnly
  · exact merged

/-- Unless the pairs leave `+NM`, the legacy rule treats every pattern for itself. -/
theorem Rules.apply_eq_map {rules : Rules} {filter : Filter}
    (other : interchangeAll rules.synonyms filter ≠ Filter.onlyNoMod) :
    rules.apply filter =
      ⟨(interchangeAll rules.synonyms filter).patterns.map fun pattern =>
        if rules.allowLegacy then pattern.permit rules.legacyMod else pattern,
        (interchangeAll rules.synonyms filter).inverted⟩ := by
  rw [apply_eq]
  split
  · exact Filter.allowLegacy_eq_map other _
  · simp [-inverted_interchangeAll]

end ScoreSieve
