import ScoreSieve.Proofs.Waiving

namespace ScoreSieve

namespace Filter

variable {legacy : Mod} {candidate : List Mod}

/-- Alone, a pattern other than `NM` accepts what it accepts with the legacy modifier permitted. -/
theorem accepts_allowLegacy_single {pattern : Pattern}
    (other : pattern ≠ Pattern.requiring Mod.noMod) :
    (allowLegacy ⟨[pattern], false⟩ legacy).accepts candidate =
      (pattern.permit legacy).accepts candidate := by
  have plain : (⟨[pattern], false⟩ : Filter) ≠ onlyNoMod := fun same =>
    other (List.cons.inj (congrArg Filter.patterns same)).1
  rw [allowLegacy_eq_map plain, List.map_singleton, accepts_single]

/-- Among others, a pattern accepts what it accepts alone, but for the alternative that `NM` gets
there. -/
theorem accepts_permit_iff {pattern : Pattern} :
    (pattern.permit legacy).accepts candidate = true ↔
      (allowLegacy ⟨[pattern], false⟩ legacy).accepts candidate = true ∧
        (pattern ≠ Pattern.requiring Mod.noMod ∨ appliedSet candidate ≠ {legacy}) := by
  by_cases noMod : pattern = Pattern.requiring Mod.noMod
  · have alone : (⟨[pattern], false⟩ : Filter) = onlyNoMod := by rw [noMod, onlyNoMod]
    rw [alone, accepts_allowLegacy_onlyNoMod, noMod, Pattern.accepts_permit_requiring_noMod]
    by_cases none : appliedSet candidate = ∅
    · simp [none, (Finset.singleton_ne_empty legacy).symm]
    · simp [none]
  · rw [accepts_allowLegacy_single noMod]
    simp [noMod]

/-- Unless it is `+NM`, a filter with the legacy modifier let in accepts what one of its patterns
accepts with that modifier permitted. -/
theorem accepts_allowLegacy_iff {patterns : List Pattern} (some : patterns ≠ [])
    (other : (⟨patterns, false⟩ : Filter) ≠ onlyNoMod) :
    (allowLegacy ⟨patterns, false⟩ legacy).accepts candidate = true ↔
      ∃ pattern ∈ patterns, (pattern.permit legacy).accepts candidate = true := by
  rw [allowLegacy_eq_map other, accepts_iff_exists rfl]
  simp [some]

end Filter

/-- The legacy rule and alternatives. With the legacy modifier let in, several patterns accept what
one of them accepts alone; but `NM` among others does not get that modifier as an alternative, and
so it does not count for a candidate with nothing else applied. -/
theorem allowLegacy_accepts_iff_exists {patterns : List Pattern} (some : patterns ≠ [])
    (legacy : Mod) (candidate : List Mod) :
    (Filter.allowLegacy ⟨patterns, false⟩ legacy).accepts candidate = true ↔
      ∃ pattern ∈ patterns,
        (Filter.allowLegacy ⟨[pattern], false⟩ legacy).accepts candidate = true ∧
          (patterns.length = 1 ∨ pattern ≠ Pattern.requiring Mod.noMod ∨
            appliedSet candidate ≠ {legacy}) := by
  by_cases single : patterns.length = 1
  · obtain ⟨pattern, rfl⟩ := List.length_eq_one_iff.mp single
    simp
  · have several : (⟨patterns, false⟩ : Filter) ≠ Filter.onlyNoMod := by
      rintro ⟨⟩
      exact single rfl
    simp only [Filter.accepts_allowLegacy_iff some several, Filter.accepts_permit_iff, single,
      false_or]

/-- In `+NM,HD(EZ)`, with `CL` let in, the second pattern accepts `HDCL` as it does alone. -/
theorem allowLegacy_accepts_beside_noMod :
    let patterns : List Pattern :=
      [Pattern.requiring Mod.noMod,
        ⟨[Group.ofMods .required [⟨['H', 'D']⟩], Group.ofMods .optional [⟨['E', 'Z']⟩]], false⟩]
    let candidate : List Mod := [⟨['H', 'D']⟩, Mod.classic]
    patterns ≠ [] ∧
      (Filter.allowLegacy ⟨patterns, false⟩ Mod.classic).accepts candidate = true ∧
      ((Filter.allowLegacy ⟨patterns, false⟩ Mod.classic).accepts candidate = true ↔
        ∃ pattern ∈ patterns,
          (Filter.allowLegacy ⟨[pattern], false⟩ Mod.classic).accepts candidate = true ∧
            (patterns.length = 1 ∨ pattern ≠ Pattern.requiring Mod.noMod ∨
              appliedSet candidate ≠ {Mod.classic})) := by
  intro patterns candidate
  have some : patterns ≠ [] := List.cons_ne_nil _ _
  exact ⟨some, by decide, allowLegacy_accepts_iff_exists some Mod.classic candidate⟩

/-- With `CL` let in, `+NM` accepts `CL`, but `+NM,HD` does not. -/
theorem legacy_alone_lost_among_alternatives :
    let patterns : List Pattern := [Pattern.requiring Mod.noMod, Pattern.requiring ⟨['H', 'D']⟩]
    Filter.parse "+NM,HD".toList = .ok ⟨patterns, false⟩ ∧
      ¬ ((Filter.allowLegacy ⟨patterns, false⟩ Mod.classic).accepts [Mod.classic] = true ↔
        ∃ pattern ∈ patterns,
          (Filter.allowLegacy ⟨[pattern], false⟩ Mod.classic).accepts [Mod.classic] = true) :=
  ⟨by decide +kernel, by decide⟩

end ScoreSieve
