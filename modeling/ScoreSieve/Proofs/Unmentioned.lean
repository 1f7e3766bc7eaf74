import ScoreSieve.Proofs.Renaming

namespace ScoreSieve

/-- Holds if both sets have the same of the mentioned modifiers, and both or neither of them have
any other one. -/
structure AgreeOn (mentioned : List Mod) (mods others : Finset Mod) : Prop where
  within : ∀ mod ∈ mentioned, (mod ∈ mods ↔ mod ∈ others)
  beyond : (∃ mod ∈ mods, mod ∉ mentioned) ↔ ∃ mod ∈ others, mod ∉ mentioned

namespace AgreeOn

variable {mentioned : List Mod} {mods others : Finset Mod}

theorem symm (agree : AgreeOn mentioned mods others) : AgreeOn mentioned others mods :=
  ⟨fun mod member => (agree.within mod member).symm, agree.beyond.symm⟩

theorem nonempty (agree : AgreeOn mentioned mods others) (some : mods.Nonempty) :
    others.Nonempty := by
  obtain ⟨mod, member⟩ := some
  by_cases known : mod ∈ mentioned
  · exact ⟨mod, (agree.within mod known).mp member⟩
  · obtain ⟨foreign, inOthers, _⟩ := agree.beyond.mp ⟨mod, member, known⟩
    exact ⟨foreign, inOthers⟩

theorem eq_empty_iff (agree : AgreeOn mentioned mods others) : mods = ∅ ↔ others = ∅ := by
  rw [← Finset.not_nonempty_iff_eq_empty, ← Finset.not_nonempty_iff_eq_empty]
  exact not_congr ⟨agree.nonempty, agree.symm.nonempty⟩

/-- Of the mentioned modifiers the same ones count as present, `NM` included. -/
theorem mem_effective_iff (agree : AgreeOn mentioned mods others) {mod : Mod}
    (known : mod ∈ mentioned) : mod ∈ effective mods ↔ mod ∈ effective others := by
  unfold effective
  by_cases none : mods = ∅
  · rw [if_pos none, if_pos (agree.eq_empty_iff.mp none)]
  · rw [if_neg none, if_neg (mt agree.eq_empty_iff.mpr none)]
    exact agree.within mod known

end AgreeOn

namespace Pattern

variable {pattern : Pattern} {mentioned : List Mod} {mods others : Finset Mod}

theorem lists_congr (agree : AgreeOn mentioned mods others)
    (within : ∀ mod ∈ pattern.allMods, mod ∈ mentioned) {mod : Mod} :
    pattern.Lists others mod ↔ pattern.Lists mods mod :=
  pattern.renamed_refl.lists_iff fun other inPattern =>
    (agree.mem_effective_iff (within other inPattern)).symm

/-- No pattern lists a foreign modifier, and so one of them is as bad as another. -/
theorem lists_all_of_agreeOn (agree : AgreeOn mentioned mods others)
    (within : ∀ mod ∈ pattern.allMods, mod ∈ mentioned)
    (all : ∀ mod ∈ mods, pattern.Lists mods mod) : ∀ mod ∈ others, pattern.Lists others mod := by
  intro mod member
  by_cases known : mod ∈ mentioned
  · have inMods := (agree.within mod known).mpr member
    exact (lists_congr agree within).mpr (all mod inMods)
  · obtain ⟨foreign, inMods, unknown⟩ := agree.beyond.mpr ⟨mod, member, known⟩
    exact absurd (within foreign (mem_allMods_of_lists (all foreign inMods))) unknown

/-- Candidates that agree on what a pattern mentions are admitted alike. -/
theorem admits_congr (agree : AgreeOn mentioned mods others)
    (within : ∀ mod ∈ pattern.allMods, mod ∈ mentioned) :
    pattern.Admits others ↔ pattern.Admits mods := by
  have met : pattern.IsMet (effective others) ↔ pattern.IsMet (effective mods) :=
    pattern.renamed_refl.isMet_iff fun mod inPattern =>
      (agree.mem_effective_iff (within mod inPattern)).symm
  rw [admits_iff_isMet, admits_iff_isMet, met]
  refine and_congr_right fun _ => forall_congr' fun _ => ?_
  exact ⟨lists_all_of_agreeOn agree.symm within, lists_all_of_agreeOn agree within⟩

end Pattern

/-- A filter cannot tell apart two candidates that have the same of the modifiers it mentions, if
both or neither of them have one that it does not mention. -/
theorem unmentioned_matter_by_presence (filter : Filter) {candidate other : List Mod}
    (agree : AgreeOn filter.allMods (appliedSet candidate) (appliedSet other)) :
    filter.accepts other = filter.accepts candidate := by
  refine Filter.accepts_congr fun pattern member => ?_
  have within : ∀ mod ∈ pattern.allMods, mod ∈ filter.allMods := fun mod inPattern =>
    Filter.mem_allMods.mpr ⟨pattern, member, inPattern⟩
  simp only [Pattern.meaning, Pattern.admits_congr agree within]

/-- To `+HD(EZFL),{NMHR}` it is one whether `EZ` comes with `DT` and `SO` or with `NC`: either way
some modifier is applied, and it is not `HR`. -/
theorem unmentioned_matter_by_presence_beside_ban :
    let easy : Mod := ⟨['E', 'Z']⟩
    let hardRock : Mod := ⟨['H', 'R']⟩
    let filter : Filter :=
      ⟨[⟨[Group.ofMods .required [⟨['H', 'D']⟩],
          Group.ofMods .optional [easy, ⟨['F', 'L']⟩]], false⟩,
        ⟨[Group.ofMods .prohibited [Mod.noMod, hardRock]], false⟩], false⟩
    let candidate : List Mod := [⟨['D', 'T']⟩, easy, ⟨['S', 'O']⟩]
    let other : List Mod := [Mod.noMod, easy, ⟨['N', 'C']⟩]
    AgreeOn filter.allMods (appliedSet candidate) (appliedSet other) ∧
      filter.accepts other = filter.accepts candidate ∧ filter.accepts candidate = true := by
  intro easy hardRock filter candidate other
  have agree : AgreeOn filter.allMods (appliedSet candidate) (appliedSet other) :=
    ⟨by decide, by decide⟩
  exact ⟨agree, unmentioned_matter_by_presence filter agree, by decide⟩

end ScoreSieve
