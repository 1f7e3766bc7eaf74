import Mathlib.Data.Set.Finite.Basic
import ScoreSieve.Proofs.Negation
import ScoreSieve.Proofs.Reading
import ScoreSieve.Proofs.Shape

namespace ScoreSieve

namespace Pattern

variable {pattern : Pattern}

/-- A pattern that refuses something refuses all of its modifiers together with a foreign one. -/
theorem not_admits_of_crowd (restricted : ¬ pattern.IsIdle) {mods : Finset Mod}
    (crowd : ∀ mod ∈ pattern.allMods, mod ∈ mods) {foreign : Mod} (isApplied : foreign ∈ mods)
    (unmentioned : foreign ∉ pattern.allMods) : ¬ pattern.Admits mods := by
  intro admits
  by_cases demanding : pattern.IsDemanding
  · exact unmentioned (mem_allMods_of_lists (admits.listed demanding foreign isApplied))
  · have banned : pattern.modsOf .prohibited ≠ [] := fun none => restricted ⟨demanding, none⟩
    obtain ⟨mod, member⟩ := List.exists_mem_of_ne_nil _ banned
    have isPresent := mem_effective_of_mem (crowd mod (mem_allMods_of_mem_modsOf member))
    exact admits.prohibited mod member isPresent

/-- Whatever has all modifiers that a restricted pattern mentions, and one more, is refused. What
the pattern prohibits is there, and what it demands leaves no room for the foreign modifier. -/
theorem accepts_eq_false_of_crowd (upright : pattern.inverted = false)
    (restricted : ¬ pattern.IsIdle) (real : Mod.noMod ∉ pattern.allMods)
    {candidate : List Mod} {foreign : Mod}
    (crowd : ∀ mod ∈ pattern.allMods, mod ∈ candidate) (present : foreign ∈ candidate)
    (notNoMod : foreign ≠ Mod.noMod) (unmentioned : foreign ∉ pattern.allMods) :
    pattern.accepts candidate = false := by
  have applied : ∀ mod ∈ pattern.allMods, mod ∈ appliedSet candidate := fun mod member =>
    mem_appliedSet.mpr ⟨crowd mod member, fun same => real (same ▸ member)⟩
  have refuses := not_admits_of_crowd restricted applied
    (mem_appliedSet.mpr ⟨present, notNoMod⟩) unmentioned
  rw [accepts_eq_evaluate, evaluate_eq_meaning, meaning, upright, decide_eq_false refuses,
    Bool.xor_false]

/-- A pattern is known to match everything exactly if it asks for nothing. -/
theorem isUnrestricted_iff_isIdle (upright : pattern.inverted = false) :
    pattern.isUnrestricted = true ↔ pattern.IsIdle := by
  rw [isUnrestricted, decide_eq_true_iff, outlook_eq, Outlook.invertedIf_eq_always_iff, upright,
    Bool.xor_false]
  by_cases idle : pattern.IsIdle
  · simp [idle]
  · by_cases contradictory : pattern.IsContradictory <;> simp [idle, contradictory]

end Pattern

namespace Filter

variable {filter : Filter}

/-- An unrestricted filter matches every candidate. -/
theorem accepts_of_isUnrestricted (unrestricted : filter.isUnrestricted = true)
    (candidate : List Mod) : filter.accepts candidate = true := by
  rw [accepts_eq_any_evaluate]
  exact any_evaluate_of_outlook (of_decide_eq_true unrestricted) candidate

/-- A filter with `+` is unrestricted if it has no patterns or an unrestricted one. -/
theorem isUnrestricted_of_patterns (upright : filter.inverted = false)
    (unrestricted : filter.patterns = [] ∨
      ∃ pattern ∈ filter.patterns, pattern.isUnrestricted = true) :
    filter.isUnrestricted = true := by
  have free : (filter.patterns.isEmpty || filter.patterns.any Pattern.isUnrestricted) = true := by
    simpa using unrestricted
  simp [isUnrestricted, outlook, free, upright, Outlook.invertedIf]

/-- Among candidates with modifiers of an infinite class that holds the ones of the filter, a plain
filter that does not speak of `NM` matches all only if it is unrestricted. -/
theorem isUnrestricted_of_accepts {domain : Set Mod} (infinite : domain.Infinite)
    (upright : filter.inverted = false)
    (plain : ∀ pattern ∈ filter.patterns, pattern.inverted = false)
    (real : Mod.noMod ∉ filter.allMods) (within : ∀ mod ∈ filter.allMods, mod ∈ domain)
    (accepts : ∀ candidate : List Mod, (∀ mod ∈ candidate, mod ∈ domain) →
      filter.accepts candidate = true) :
    filter.isUnrestricted = true := by
  by_contra restricted
  have some : filter.patterns ≠ [] := fun none =>
    restricted (isUnrestricted_of_patterns upright (.inl none))
  obtain ⟨foreign, inDomain, fresh⟩ :=
    infinite.exists_notMem_finset (Mod.noMod :: filter.allMods).toFinset
  simp only [List.mem_toFinset, List.mem_cons, not_or] at fresh
  obtain ⟨notNoMod, unmentioned⟩ := fresh
  have accepted := accepts (foreign :: filter.allMods)
    (List.forall_mem_cons.mpr ⟨inDomain, within⟩)
  rw [accepts_eq_any some, upright, Bool.xor_false] at accepted
  obtain ⟨pattern, member, accepted⟩ := List.any_eq_true.mp accepted
  have mentioned : ∀ mod ∈ pattern.allMods, mod ∈ filter.allMods := fun mod inPattern =>
    mem_allMods.mpr ⟨pattern, member, inPattern⟩
  have notIdle : ¬ pattern.IsIdle := fun idle =>
    restricted (isUnrestricted_of_patterns upright (.inr ⟨pattern, member,
      (Pattern.isUnrestricted_iff_isIdle (plain pattern member)).mpr idle⟩))
  have refused := Pattern.accepts_eq_false_of_crowd (plain pattern member) notIdle
    (mt (mentioned _) real)
    (fun mod inPattern => List.mem_cons_of_mem foreign (mentioned mod inPattern))
    List.mem_cons_self notNoMod (mt (mentioned _) unmentioned)
  exact Bool.false_ne_true (refused.symm.trans accepted)

end Filter

/-- There are infinitely many modifiers that a text can name. -/
theorem infinite_range_ofText : (Set.range Mod.ofText).Infinite := by
  have read (n : Nat) : Mod.ofText (List.replicate n 'A') = ⟨List.replicate n 'A'⟩ := by
    have letters : ∀ c ∈ List.replicate n 'A', c.isAlpha = true := fun c member => by
      rw [List.eq_of_mem_replicate member]
      decide
    have upper : Char.toUpper 'A' = 'A' := by decide
    rw [Mod.ofText, Text.trim_eq_self (isTrimmed_of_letters letters), List.map_replicate, upper]
  refine Set.infinite_of_injective_forall_mem (f := fun n => ⟨List.replicate n 'A'⟩) ?_
    fun n => ⟨_, read n⟩
  intro n m same
  have length := congrArg (fun mod : Mod => mod.letters.length) same
  simpa using length

/-- The mark of an unrestricted filter is exact for plain filters that do not speak of `NM`: they
bear it exactly if they match every candidate. It is enough to look at candidates that can be
written, if the modifiers of the filter can. -/
theorem isUnrestricted_iff_accepts_all (filter : Filter) (upright : filter.inverted = false)
    (plain : ∀ pattern ∈ filter.patterns, pattern.inverted = false)
    (real : Mod.noMod ∉ filter.allMods) :
    (filter.isUnrestricted = true ↔ ∀ candidate, filter.accepts candidate = true) ∧
    ((∀ mod ∈ filter.allMods, ∃ text, Mod.ofText text = mod) →
      (filter.isUnrestricted = true ↔
        ∀ texts : List (List Char), filter.accepts (texts.map Mod.ofText) = true)) := by
  refine ⟨⟨Filter.accepts_of_isUnrestricted, fun accepts => ?_⟩, fun named =>
    ⟨fun unrestricted texts => Filter.accepts_of_isUnrestricted unrestricted _, fun accepts => ?_⟩⟩
  · exact Filter.isUnrestricted_of_accepts (infinite_range_ofText.mono (Set.subset_univ _)) upright
      plain real (fun _ _ => Set.mem_univ _) fun candidate _ => accepts candidate
  · refine Filter.isUnrestricted_of_accepts infinite_range_ofText upright plain real named ?_
    intro candidate written
    have texts : candidate ∈ Set.range (List.map Mod.ofText) := by
      rw [Set.range_list_map]
      exact written
    obtain ⟨texts, rfl⟩ := texts
    exact accepts texts

/-- `+HD{EZ},(DT)` is unrestricted for the sake of its second pattern. `+[DTHR]{DT},{FL}` is not,
and so some candidate that can be written is refused by both of its patterns. -/
theorem isUnrestricted_of_optional_alternative :
    let free : Filter :=
      ⟨[⟨[Group.ofMods .required [⟨['H', 'D']⟩], Group.ofMods .prohibited [⟨['E', 'Z']⟩]], false⟩,
        ⟨[Group.ofMods .optional [⟨['D', 'T']⟩]], false⟩], false⟩
    let strict : Filter :=
      ⟨[⟨[Group.ofMods .exclusive [⟨['D', 'T']⟩, ⟨['H', 'R']⟩],
          Group.ofMods .prohibited [⟨['D', 'T']⟩]], false⟩,
        ⟨[Group.ofMods .prohibited [⟨['F', 'L']⟩]], false⟩], false⟩
    (free.inverted = false ∧ (∀ pattern ∈ free.patterns, pattern.inverted = false) ∧
      Mod.noMod ∉ free.allMods ∧ free.isUnrestricted = true ∧
      ∀ candidate, free.accepts candidate = true) ∧
    strict.inverted = false ∧ (∀ pattern ∈ strict.patterns, pattern.inverted = false) ∧
      Mod.noMod ∉ strict.allMods ∧ (∀ mod ∈ strict.allMods, ∃ text, Mod.ofText text = mod) ∧
      ¬ strict.isUnrestricted = true ∧
      ¬ ∀ texts : List (List Char), strict.accepts (texts.map Mod.ofText) = true := by
  intro free strict
  have unrestricted : free.isUnrestricted = true := by decide
  have restricted : ¬ strict.isUnrestricted = true := by decide
  have named : ∀ mod ∈ strict.allMods, ∃ text, Mod.ofText text = mod := by
    have all : strict.allMods = ["DT", "HR", "FL"].map (Mod.ofText ·.toList) := by decide
    rw [all]
    intro mod member
    obtain ⟨text, _, rfl⟩ := List.mem_map.mp member
    exact ⟨_, rfl⟩
  have ofFree := isUnrestricted_iff_accepts_all free rfl (by decide) (by decide)
  have ofStrict := isUnrestricted_iff_accepts_all strict rfl (by decide) (by decide)
  exact ⟨⟨rfl, by decide, by decide, unrestricted, ofFree.1.mp unrestricted⟩, rfl, by decide,
    by decide, named, restricted, mt (ofStrict.2 named).mpr restricted⟩

end ScoreSieve
