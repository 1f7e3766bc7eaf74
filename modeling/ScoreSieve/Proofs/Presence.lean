import Mathlib.Data.Finset.Basic
import Mathlib.Data.Finset.Dedup
import ScoreSieve.Filter.Verdict

namespace ScoreSieve

/-- The modifiers of a candidate that are applied to its score; `NM` is never one of them. -/
def appliedSet (candidate : List Mod) : Finset Mod :=
  candidate.toFinset.erase Mod.noMod

/-- The modifiers that count as present: the applied ones or, where there are none, `NM` alone. -/
def effective (mods : Finset Mod) : Finset Mod :=
  if mods = ∅ then {Mod.noMod} else mods

@[simp] theorem mem_applied {candidate : List Mod} {mod : Mod} :
    mod ∈ applied candidate ↔ mod ∈ candidate ∧ mod ≠ Mod.noMod := by
  simp [applied, Mod.isNoMod]

theorem noMod_not_mem_applied (candidate : List Mod) : Mod.noMod ∉ applied candidate := by
  simp

@[simp] theorem mem_appliedSet {candidate : List Mod} {mod : Mod} :
    mod ∈ appliedSet candidate ↔ mod ∈ candidate ∧ mod ≠ Mod.noMod := by
  simp [appliedSet, and_comm]

theorem toFinset_applied (candidate : List Mod) :
    (applied candidate).toFinset = appliedSet candidate := by
  ext mod
  simp

theorem appliedSet_eq_empty_iff {candidate : List Mod} :
    appliedSet candidate = ∅ ↔ applied candidate = [] := by
  rw [← toFinset_applied, List.toFinset_eq_empty_iff]

namespace Group

@[simp] theorem containsNoMod_iff {group : Group} :
    group.containsNoMod = true ↔ Mod.noMod ∈ group.mods := by
  simp [containsNoMod, Mod.isNoMod]

/-- What a group asks of the modifiers that are present. Optional groups ask nothing. -/
def Holds (group : Group) (mods : Finset Mod) : Prop :=
  match group.kind with
  | .required => ∀ mod ∈ group.mods, mod ∈ mods
  | .optional => True
  | .exclusive => group.mods.countP (· ∈ mods) = 1
  | .prohibited => ∀ mod ∈ group.mods, mod ∉ mods

theorem length_present (candidate mods : List Mod) :
    (present candidate mods).length = mods.countP (· ∈ candidate) :=
  List.countP_eq_length_filter.symm

/-- Where nothing is applied, a group that lists `NM` finds it and nothing else. -/
theorem length_present_noMod {group : Group} (listed : Mod.noMod ∈ group.mods) :
    (present [Mod.noMod] group.mods).length = 1 := by
  have once := List.count_eq_one_of_mem group.nodup listed
  rw [length_present]
  simpa [List.count, List.mem_singleton, beq_eq_decide] using once

/-- Whether `NM` counts as present matters only to groups that list it. -/
theorem present_noMod_of_not_mem {group : Group} (absent : Mod.noMod ∉ group.mods) :
    present [Mod.noMod] group.mods = present [] group.mods := by
  refine List.filter_congr fun mod member => ?_
  have other : mod ≠ Mod.noMod := fun same => absent (same ▸ member)
  simp [other]

/-- A candidate without modifiers is judged as if `NM` were its one modifier. This is what makes the
special cases of `NM` agree with one rule. -/
theorem finding_nil (group : Group) :
    group.finding [] = findingReal group.kind group.mods [Mod.noMod] := by
  unfold finding findingReal
  by_cases listed : Mod.noMod ∈ group.mods
  · have one := length_present_noMod listed
    have alone : (group.mods.length == 1) = decide (1 = group.mods.length) := by
      rw [beq_eq_decide]
      exact decide_eq_decide.mpr eq_comm
    rw [if_pos (containsNoMod_iff.mpr listed)]
    cases kind : group.kind <;> simp [findingNoMod, kind, one, alone]
  · rw [if_neg (by simpa using listed), present_noMod_of_not_mem listed]

/-- Where something is applied, `NM` is a modifier like any other, and it is absent. -/
theorem finding_of_ne_nil (group : Group) {candidate : List Mod} (some : candidate ≠ [])
    (real : Mod.noMod ∉ candidate) :
    group.finding candidate = findingReal group.kind group.mods candidate := by
  unfold finding
  by_cases listed : Mod.noMod ∈ group.mods
  · have fewer : (present candidate group.mods).length ≠ group.mods.length := by
      intro all
      have everyone := List.filter_eq_self.mp (List.filter_sublist.eq_of_length all)
      exact real (by simpa using everyone _ listed)
    have same : present candidate (applied group.mods) = present candidate group.mods := by
      rw [present, present, applied, List.filter_filter]
      refine List.filter_congr fun mod _ => ?_
      by_cases noMod : mod = Mod.noMod
      · simp [noMod, real]
      · simp [Mod.isNoMod, noMod]
    rw [if_pos (containsNoMod_iff.mpr listed)]
    cases kind : group.kind <;>
      simp [findingNoMod, findingReal, kind, some, fewer, same]
  · rw [if_neg (by simpa using listed)]

theorem findingReal_ne_failed_iff (group : Group) (candidate : List Mod) :
    findingReal group.kind group.mods candidate ≠ .failed ↔ group.Holds candidate.toFinset := by
  unfold findingReal Holds
  rw [length_present]
  cases group.kind with
  | required => simp [List.countP_eq_length]
  | optional => dsimp only; split <;> simp
  | exclusive => simp
  | prohibited => simp [List.countP_eq_zero]

theorem findingReal_eq_unsatisfied_iff {group : Group} (kind : group.kind = .optional)
    (candidate : List Mod) :
    findingReal group.kind group.mods candidate = .unsatisfied ↔
      ¬ ∀ mod ∈ group.mods, mod ∈ candidate.toFinset := by
  simp [findingReal, kind, length_present, List.countP_eq_length]

/-- Whatever is applied, a group judges the modifiers that count as present. -/
theorem finding_eq_findingReal (group : Group) (candidate : List Mod) :
    ∃ counted : List Mod, counted.toFinset = effective (appliedSet candidate) ∧
      group.finding (applied candidate) = findingReal group.kind group.mods counted := by
  by_cases none : applied candidate = []
  · refine ⟨[Mod.noMod], ?_, ?_⟩
    · simp [effective, appliedSet_eq_empty_iff.mpr none]
    · rw [none, finding_nil]
  · refine ⟨applied candidate, ?_, ?_⟩
    · have some : appliedSet candidate ≠ ∅ := fun empty => none (appliedSet_eq_empty_iff.mp empty)
      rw [toFinset_applied, effective, if_neg some]
    · exact finding_of_ne_nil group none (noMod_not_mem_applied candidate)

/-- A group refuses no candidate but those whose present modifiers break its demand. -/
theorem finding_ne_failed_iff (group : Group) (candidate : List Mod) :
    group.finding (applied candidate) ≠ .failed ↔
      group.Holds (effective (appliedSet candidate)) := by
  obtain ⟨counted, same, found⟩ := group.finding_eq_findingReal candidate
  rw [found, findingReal_ne_failed_iff, same]

theorem not_isMissing {group : Group} (kind : group.kind ≠ .optional) (candidate : List Mod) :
    group.isMissing candidate = false := by
  simp [isMissing, kind]

/-- An optional group counts as there if all of its modifiers are. -/
theorem isMissing_eq_false_iff {group : Group} (kind : group.kind = .optional)
    (candidate : List Mod) :
    group.isMissing (applied candidate) = false ↔
      ∀ mod ∈ group.mods, mod ∈ effective (appliedSet candidate) := by
  obtain ⟨counted, same, found⟩ := group.finding_eq_findingReal candidate
  rw [isMissing, decide_eq_true kind, Bool.true_and, decide_eq_false_iff_not, found,
    findingReal_eq_unsatisfied_iff kind, not_not, same]

end Group

namespace Pattern

/-- What is refused before the groups are looked at would be refused after that. -/
theorem not_isExceeded_of_skipped {pattern : Pattern} {candidate : List Mod}
    {skipped : Group → Bool}
    (possible : pattern.isExceeded candidate (pattern.possibleMods skipped) = false) :
    pattern.isExceeded candidate (pattern.possibleMods fun _ => false) = false := by
  rw [isExceeded_eq_false_iff] at possible ⊢
  intro constrained mod isApplied
  obtain ⟨group, member, ⟨kind, _⟩, listed⟩ :=
    mem_possibleMods.mp (possible constrained mod isApplied)
  exact mem_possibleMods.mpr ⟨group, member, ⟨kind, rfl⟩, listed⟩

/-- The verdict of the groups of a pattern, in terms of the modifiers that count as present. -/
theorem admits_iff {pattern : Pattern} {candidate : List Mod} :
    pattern.admits (applied candidate) = true ↔
      (∀ group ∈ pattern.groups, group.Holds (effective (appliedSet candidate))) ∧
      (pattern.isConstrained = true → ∀ mod ∈ appliedSet candidate,
        mod ∈ pattern.possibleMods (·.isMissing (applied candidate))) := by
  have holds : pattern.groups.any (·.finding (applied candidate) = .failed) = false ↔
      ∀ group ∈ pattern.groups, group.Holds (effective (appliedSet candidate)) := by
    simp only [List.any_eq_false, decide_eq_true_eq, ← ne_eq, Group.finding_ne_failed_iff]
  have listed : pattern.isExceeded (applied candidate)
        (pattern.possibleMods (·.isMissing (applied candidate))) = false ↔
      (pattern.isConstrained = true → ∀ mod ∈ appliedSet candidate,
        mod ∈ pattern.possibleMods (·.isMissing (applied candidate))) := by
    simp only [isExceeded_eq_false_iff, mem_applied, mem_appliedSet]
  rw [← holds, ← listed, admits]
  constructor
  · intro admitted
    split at admitted
    next => simp at admitted
    next =>
      split at admitted
      next => simp at admitted
      next passed => exact ⟨by simpa using passed, by simpa using admitted⟩
  · rintro ⟨passed, possible⟩
    rw [not_isExceeded_of_skipped possible, passed, possible]
    rfl

end Pattern

end ScoreSieve
