import ScoreSieve.Filter.Legacy
import ScoreSieve.Proofs.Renaming

namespace ScoreSieve

/-- Apart from `NM`, the modifiers that count as present are the ones that are applied. -/
theorem mem_effective_iff {mods : Finset Mod} {mod : Mod} (real : mod ≠ Mod.noMod) :
    mod ∈ effective mods ↔ mod ∈ mods := by
  by_cases none : mods = ∅
  · simp [effective, none, real]
  · rw [effective, if_neg none]

/-- A modifier alone counts as present if it is the one applied modifier, or is `NM` and there is
none. -/
theorem effective_eq_singleton_iff {mods : Finset Mod} {mod : Mod} :
    effective mods = {mod} ↔ mods = ∅ ∧ mod = Mod.noMod ∨ mods = {mod} := by
  by_cases none : mods = ∅
  · simp [effective, none, eq_comm]
  · simp [effective, none]

theorem noMod_mem_effective_iff {candidate : List Mod} :
    Mod.noMod ∈ effective (appliedSet candidate) ↔ appliedSet candidate = ∅ := by
  by_cases none : appliedSet candidate = ∅ <;> simp [effective, none]

theorem appliedSet_ne_noMod (candidate : List Mod) : appliedSet candidate ≠ {Mod.noMod} := by
  intro alone
  have listed := alone ▸ Finset.mem_singleton_self Mod.noMod
  exact (mem_appliedSet.mp listed).2 rfl

theorem appliedSet_filter_ne (candidate : List Mod) (mod : Mod) :
    appliedSet (candidate.filter (· ≠ mod)) = (appliedSet candidate).erase mod := by
  ext other
  simp only [mem_appliedSet, Finset.mem_erase, List.mem_filter, decide_eq_true_eq]
  tauto

namespace Pattern

variable {pattern : Pattern} {legacy : Mod} {mods : Finset Mod}

theorem inverted_permit (pattern : Pattern) (legacy : Mod) :
    (pattern.permit legacy).inverted = pattern.inverted := by
  unfold permit
  split <;> rfl

theorem groupsOf_permit (kind : Kind) (other : kind ≠ .optional) :
    (pattern.permit legacy).groupsOf kind = pattern.groupsOf kind := by
  unfold permit
  split
  · simp [groupsOf, List.filter_append, other.symm]
  · rfl

theorem modsOf_permit (kind : Kind) (other : kind ≠ .optional) :
    (pattern.permit legacy).modsOf kind = pattern.modsOf kind := by
  rw [modsOf, groupsOf_permit kind other, modsOf]

/-- Letting in the legacy modifier touches no choice and no prohibition, so the same groups are
dead. -/
theorem isDead_permit {group : Group} :
    (pattern.permit legacy).IsDead group ↔ pattern.IsDead group := by
  rw [IsDead, modsOf_permit .prohibited (by decide), IsDead]

theorem isDemanding_permit : (pattern.permit legacy).IsDemanding ↔ pattern.IsDemanding := by
  simp only [IsDemanding, groupsOf_permit .required (by decide),
    groupsOf_permit .exclusive (by decide), isDead_permit]

theorem isMet_permit : (pattern.permit legacy).IsMet mods ↔ pattern.IsMet mods := by
  simp only [IsMet, groupsOf_permit .required (by decide),
    groupsOf_permit .exclusive (by decide),
    modsOf_permit .prohibited (by decide), isDead_permit]

theorem isConstrained_of_isDemanding (demanding : pattern.IsDemanding) :
    pattern.isConstrained = true := by
  rw [isConstrained_iff]
  rcases demanding with ⟨group, inGroups, _⟩ | ⟨group, inGroups, _⟩
  · exact ⟨group, (mem_groupsOf.mp inGroups).1, .inl (mem_groupsOf.mp inGroups).2⟩
  · exact ⟨group, (mem_groupsOf.mp inGroups).1, .inr (mem_groupsOf.mp inGroups).2⟩

/-- What permitting a modifier adds to what a constrained pattern lists is that modifier, where it
counts as present. -/
theorem lists_permit_iff (constrained : pattern.isConstrained = true) {mod : Mod} :
    (pattern.permit legacy).Lists mods mod ↔
      pattern.Lists mods mod ∨ mod = legacy ∧ legacy ∈ effective mods := by
  have optional (group : Group) : group ∈ (pattern.permit legacy).groupsOf .optional ↔
      group ∈ pattern.groupsOf .optional ∨ group = Group.ofMods .optional [legacy] := by
    rw [permit, if_pos constrained]
    simp [groupsOf]
  have single : (Group.ofMods .optional [legacy]).mods = [legacy] := rfl
  simp only [Lists, groupsOf_permit .required (by decide),
    groupsOf_permit .exclusive (by decide), isDead_permit, optional,
    or_and_right, exists_or, exists_eq_left, single, List.mem_singleton, forall_eq]
  rw [or_assoc, or_assoc, and_comm (a := mod = legacy)]

/-- A pattern that permits a modifier asks what it asked before, but leaves that modifier out when
it looks for unlisted ones. -/
theorem admits_permit_iff :
    (pattern.permit legacy).Admits mods ↔
      pattern.IsMet (effective mods) ∧
        (pattern.IsDemanding → ∀ mod ∈ mods, mod ≠ legacy → pattern.Lists mods mod) := by
  rw [admits_iff_isMet, isMet_permit, isDemanding_permit]
  refine and_congr_right fun _ => forall_congr' fun demanding => ?_
  refine forall₂_congr fun mod isApplied => ?_
  rw [lists_permit_iff (isConstrained_of_isDemanding demanding)]
  constructor
  · rintro (listed | ⟨same, _⟩) other
    · exact listed
    · exact absurd same other
  · intro listed
    by_cases same : mod = legacy
    · exact .inr ⟨same, same ▸ mem_effective_of_mem isApplied⟩
    · exact .inl (listed same)

/-- Where the legacy modifier is not there, letting it in changes nothing. -/
theorem admits_permit_of_absent (absent : legacy ∉ mods) :
    (pattern.permit legacy).Admits mods ↔ pattern.Admits mods := by
  rw [admits_permit_iff, admits_iff_isMet]
  refine and_congr_right fun _ => forall_congr' fun _ => forall₂_congr fun mod isApplied => ?_
  have other : mod ≠ legacy := fun same => absent (same ▸ isApplied)
  exact forall_prop_of_true other

/-- Where a pattern mentions neither the permitted modifier nor `NM`, it is as if the permitted
modifier were not applied. -/
theorem admits_permit_of_unmentioned (unmentioned : legacy ∉ pattern.allMods)
    (noNoMod : Mod.noMod ∉ pattern.allMods) :
    (pattern.permit legacy).Admits mods ↔ pattern.Admits (mods.erase legacy) := by
  have agree : ∀ mod ∈ pattern.allMods,
      (mod ∈ effective (mods.erase legacy) ↔ mod ∈ effective mods) := by
    intro mod mentioned
    have notNoMod : mod ≠ Mod.noMod := fun same => noNoMod (same ▸ mentioned)
    have notLegacy : mod ≠ legacy := fun same => unmentioned (same ▸ mentioned)
    rw [mem_effective_iff notNoMod, mem_effective_iff notNoMod, Finset.mem_erase]
    exact and_iff_right notLegacy
  have same := pattern.renamed_refl
  rw [admits_permit_iff, admits_iff_isMet, same.isMet_iff agree]
  refine and_congr_right fun _ => forall_congr' fun _ => ?_
  simp only [Finset.mem_erase, and_imp]
  refine forall_congr' fun mod => ?_
  have lists : pattern.Lists (mods.erase legacy) mod ↔ pattern.Lists mods mod :=
    same.lists_iff agree
  rw [lists]
  exact forall_comm

/-- The pattern that asks for one modifier and nothing else; `NM` alone is the pattern of `+NM`. -/
def requiring (mod : Mod) : Pattern :=
  ⟨[Group.ofMods .required [mod]], false⟩

/-- The test for the lone `NM` looks at groups only: there is one, and it requires `NM` alone. -/
theorem isNoModOnly_iff :
    pattern.isNoModOnly = true ↔ pattern.groups = (requiring Mod.noMod).groups := by
  constructor
  · intro only
    unfold isNoModOnly at only
    split at only
    next group single =>
      obtain ⟨kind, mods, nodup⟩ := group
      simp only [Bool.and_eq_true, decide_eq_true_eq, beq_iff_eq, Group.containsNoMod_iff] at only
      obtain ⟨⟨rfl, length⟩, listed⟩ := only
      obtain ⟨mod, rfl⟩ := List.length_eq_one_iff.mp length
      rw [List.mem_singleton] at listed
      subst listed
      exact single
    next => simp at only
  · intro same
    rw [isNoModOnly, same]
    rfl

theorem lists_requiring_iff {mod other : Mod} :
    (requiring mod).Lists mods other ↔ other = mod := by
  have single : (Group.ofMods .required [mod]).mods = [mod] := rfl
  simp [Lists, groupsOf, requiring, single]

theorem isMet_requiring_iff {mod : Mod} : (requiring mod).IsMet mods ↔ mod ∈ mods := by
  have single : (Group.ofMods .required [mod]).mods = [mod] := rfl
  simp [IsMet, groupsOf, modsOf, requiring, single, distinct]

/-- A pattern that requires one modifier admits that modifier alone. -/
theorem admits_requiring_iff {mod : Mod} :
    (requiring mod).Admits mods ↔ effective mods = {mod} := by
  have demanding : (requiring mod).IsDemanding :=
    .inl ⟨Group.ofMods .required [mod], by simp [groupsOf, requiring], List.cons_ne_nil _ _⟩
  rw [admits_iff_isMet, isMet_requiring_iff, forall_prop_of_true demanding]
  simp only [lists_requiring_iff]
  constructor
  · rintro ⟨isPresent, listed⟩
    refine Finset.eq_singleton_iff_unique_mem.mpr ⟨isPresent, fun other member => ?_⟩
    by_cases none : mods = ∅
    · rw [effective, if_pos none, Finset.mem_singleton] at isPresent member
      rw [isPresent, member]
    · rw [effective, if_neg none] at member
      exact listed other member
  · intro alone
    rw [alone]
    refine ⟨Finset.mem_singleton_self mod, fun other isApplied => ?_⟩
    have isPresent := mem_effective_of_mem isApplied
    rwa [alone, Finset.mem_singleton] at isPresent

theorem meaning_requiring (mod : Mod) (candidate : List Mod) :
    (requiring mod).meaning candidate = decide (effective (appliedSet candidate) = {mod}) := by
  simp only [meaning, admits_requiring_iff]
  exact Bool.xor_false _

end Pattern

namespace Filter

/-- The filter `+NM`, which asks for no modifiers. -/
def onlyNoMod : Filter :=
  ⟨[Pattern.requiring Mod.noMod], false⟩

theorem isNoModOnly_iff {filter : Filter} : filter.isNoModOnly = true ↔ filter = onlyNoMod := by
  constructor
  · intro only
    obtain ⟨patterns, inverted⟩ := filter
    simp only [isNoModOnly, Bool.and_eq_true, Bool.not_eq_true'] at only
    obtain ⟨rfl, only⟩ := only
    split at only
    next pattern =>
      obtain ⟨groups, inverted⟩ := pattern
      simp only [Bool.and_eq_true, Bool.not_eq_true'] at only
      obtain ⟨rfl, only⟩ := only
      obtain rfl := Pattern.isNoModOnly_iff.mp only
      rfl
    next => simp at only
  · rintro rfl
    rfl

/-- Filters whose patterns agree one by one, on a candidate each, agree on these candidates. -/
theorem accepts_map_eq {filter : Filter} {change : Pattern → Pattern} {candidate other : List Mod}
    (agree : ∀ pattern ∈ filter.patterns,
      (change pattern).meaning candidate = pattern.meaning other) :
    Filter.accepts ⟨filter.patterns.map change, filter.inverted⟩ candidate =
      filter.accepts other := by
  refine accepts_eq_of_matched rfl ⟨fun pattern member => ?_, fun image member => ?_⟩
  · exact ⟨_, List.mem_map_of_mem member, agree pattern member⟩
  · obtain ⟨pattern, inPatterns, rfl⟩ := List.mem_map.mp member
    exact ⟨pattern, inPatterns, agree pattern inPatterns⟩

/-- Every other filter gets the legacy modifier let in by each of its patterns. -/
theorem allowLegacy_eq_map {filter : Filter} (other : filter ≠ onlyNoMod) (legacy : Mod) :
    filter.allowLegacy legacy = ⟨filter.patterns.map (·.permit legacy), filter.inverted⟩ := by
  rw [allowLegacy, if_neg (mt isNoModOnly_iff.mp other)]

theorem accepts_onlyNoMod (candidate : List Mod) :
    onlyNoMod.accepts candidate = decide (appliedSet candidate = ∅) := by
  have never := appliedSet_ne_noMod candidate
  simp [accepts_eq_any_evaluate, Pattern.evaluate_eq_meaning, onlyNoMod, Pattern.meaning_requiring,
    effective_eq_singleton_iff, never]

/-- Beside `+NM` the legacy modifier is let in alone. -/
theorem accepts_allowLegacy_onlyNoMod (legacy : Mod) (candidate : List Mod) :
    (onlyNoMod.allowLegacy legacy).accepts candidate =
      decide (appliedSet candidate = ∅ ∨ appliedSet candidate = {legacy}) := by
  have alternatives : onlyNoMod.allowLegacy legacy =
      ⟨[Pattern.requiring Mod.noMod, Pattern.requiring legacy], false⟩ := rfl
  have never := appliedSet_ne_noMod candidate
  rw [alternatives]
  by_cases none : appliedSet candidate = ∅ <;>
    simp [accepts_eq_any_evaluate, Pattern.evaluate_eq_meaning, Pattern.meaning_requiring,
      effective_eq_singleton_iff, never, none]

end Filter

/-- The legacy modifier is permitted and never required. A candidate without it keeps its verdict,
and if the filter names neither it nor `NM`, or is just `+NM`, a candidate with it gets the verdict
that it has without it. -/
theorem legacy_permitted_never_required :
    (∀ (filter : Filter) (legacy : Mod) (candidate : List Mod), legacy ∉ candidate →
      (filter.allowLegacy legacy).accepts candidate = filter.accepts candidate) ∧
    ∀ (filter : Filter) (legacy : Mod), legacy ≠ Mod.noMod → legacy ∉ filter.allMods →
      (Mod.noMod ∉ filter.allMods ∨ filter = Filter.onlyNoMod) →
      ∀ candidate, (filter.allowLegacy legacy).accepts candidate =
        filter.accepts (candidate.filter (· ≠ legacy)) := by
  refine ⟨?_, ?_⟩
  · intro filter legacy candidate absent
    have notApplied : legacy ∉ appliedSet candidate := fun isApplied =>
      absent (mem_appliedSet.mp isApplied).1
    by_cases only : filter = Filter.onlyNoMod
    · have notAlone : appliedSet candidate ≠ {legacy} := fun alone =>
        notApplied (alone ▸ Finset.mem_singleton_self legacy)
      rw [only, Filter.accepts_allowLegacy_onlyNoMod, Filter.accepts_onlyNoMod]
      simp [notAlone]
    · rw [Filter.allowLegacy_eq_map only]
      refine Filter.accepts_map_eq fun pattern _ => ?_
      simp only [Pattern.meaning, Pattern.inverted_permit,
        Pattern.admits_permit_of_absent notApplied]
  · intro filter legacy real unmentioned noNoMod candidate
    by_cases only : filter = Filter.onlyNoMod
    · rw [only, Filter.accepts_allowLegacy_onlyNoMod, Filter.accepts_onlyNoMod,
        appliedSet_filter_ne]
      simp only [Finset.erase_eq_empty_iff]
    · have free := noNoMod.resolve_right only
      rw [Filter.allowLegacy_eq_map only]
      refine Filter.accepts_map_eq fun pattern member => ?_
      have fresh : legacy ∉ pattern.allMods := fun mentioned =>
        unmentioned (Filter.mem_allMods.mpr ⟨pattern, member, mentioned⟩)
      have realOnly : Mod.noMod ∉ pattern.allMods := fun mentioned =>
        free (Filter.mem_allMods.mpr ⟨pattern, member, mentioned⟩)
      simp only [Pattern.meaning, Pattern.inverted_permit, appliedSet_filter_ne,
        Pattern.admits_permit_of_unmentioned fresh realOnly]

/-- With `CL` permitted, `+HD[DTHR]` takes `HDCLDT` for `HDDT`, and `+NM` takes `CL` for no
modifiers. -/
theorem legacy_permitted_beside_choice :
    let hidden : Mod := ⟨['H', 'D']⟩
    let doubleTime : Mod := ⟨['D', 'T']⟩
    let filter : Filter :=
      ⟨[⟨[Group.ofMods .required [hidden], Group.ofMods .exclusive [doubleTime, ⟨['H', 'R']⟩]],
        false⟩], false⟩
    Mod.classic ∉ [hidden, doubleTime] ∧
      (filter.allowLegacy Mod.classic).accepts [hidden, doubleTime] =
        filter.accepts [hidden, doubleTime] ∧
      Mod.classic ≠ Mod.noMod ∧ Mod.classic ∉ filter.allMods ∧ Mod.noMod ∉ filter.allMods ∧
      (filter.allowLegacy Mod.classic).accepts [hidden, Mod.classic, doubleTime] =
        filter.accepts [hidden, doubleTime] ∧
      filter.accepts [hidden, doubleTime] = true ∧
      (Filter.onlyNoMod.allowLegacy Mod.classic).accepts [Mod.classic] =
        Filter.onlyNoMod.accepts [] := by
  intro hidden doubleTime filter
  obtain ⟨ofAbsent, ofUnmentioned⟩ := legacy_permitted_never_required
  have absent : Mod.classic ∉ [hidden, doubleTime] := by decide
  have real : Mod.classic ≠ Mod.noMod := by decide
  have unmentioned : Mod.classic ∉ filter.allMods := by decide
  have noNoMod : Mod.noMod ∉ filter.allMods := by decide
  exact ⟨absent, ofAbsent filter Mod.classic _ absent, real, unmentioned, noNoMod,
    ofUnmentioned filter Mod.classic real unmentioned (.inl noNoMod)
      [hidden, Mod.classic, doubleTime],
    by decide, ofUnmentioned Filter.onlyNoMod Mod.classic real (by decide) (.inr rfl) [Mod.classic]⟩

end ScoreSieve
