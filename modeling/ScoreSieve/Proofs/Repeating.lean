import ScoreSieve.Proofs.Merging
import ScoreSieve.Proofs.Shape

namespace ScoreSieve

variable {a b : Mod}

namespace Group

variable {group : Group}

theorem mods_swap (absent : b ∉ group.mods) :
    (group.swap a b).mods = group.mods.map (Equiv.swap a b) := by
  have same : group.mods.map (fun mod => if mod = a then b else mod) =
      group.mods.map (Equiv.swap a b) := by
    refine List.map_congr_left fun mod member => ?_
    have other : mod ≠ b := fun same => absent (same ▸ member)
    rw [Equiv.swap_apply_def, if_neg other]
  rw [swap, same, mods_ofMods _ (group.nodup.map (Equiv.swap a b).injective)]

/-- The exchange puts each of the two modifiers in the very place of the other one. -/
theorem mods_exchange (favours : group.favours a b = true) :
    (group.exchange a b).mods = group.mods.map (Equiv.swap a b) := by
  simp only [Group.favours, Bool.and_eq_true, Bool.xor_iff_ne, ne_eq, decide_eq_decide] at favours
  unfold exchange
  by_cases first : a ∈ group.mods
  · rw [if_pos first, mods_swap fun second => favours.2 (iff_of_true first second)]
  · rw [if_neg first, mods_swap first, Equiv.swap_comm]

theorem mods_mirror (group : Group) (a b : Mod) :
    (group.mirror a b).mods = group.mods.map (group.turn a b) := by
  unfold mirror turn
  split
  next favours => exact mods_exchange favours
  next => exact (List.map_id _).symm

theorem favours_mirror_self (group : Group) (a b : Mod) :
    (group.mirror a b).favours a b = group.favours a b := by
  unfold mirror
  split
  next favours =>
    have renamed := renamed_exchange favours
    have first : a ∈ (group.exchange a b).mods ↔ b ∈ group.mods := by
      rw [← renamed.mods, Equiv.swap_apply_right]
    have second : b ∈ (group.exchange a b).mods ↔ a ∈ group.mods := by
      rw [← renamed.mods, Equiv.swap_apply_left]
    simp only [Group.favours, kind_exchange, first, second, Bool.xor_comm]
  next => rfl

/-- Exchanging two modifiers twice gives the very group back, its order included. -/
theorem mirror_mirror (group : Group) (a b : Mod) :
    (group.mirror a b).mirror a b = group := by
  refine eq_of_mods (by simp) ?_
  have back : (group.mirror a b).turn a b = (group.turn a b).symm := by
    rw [turn, turn, favours_mirror_self]
    split
    · exact (Equiv.symm_swap a b).symm
    · rfl
  rw [mods_mirror, mods_mirror, back, List.map_map, Equiv.symm_comp_self, List.map_id]

end Group

namespace Pattern

variable {pattern : Pattern}

theorem exchange_exchange (pattern : Pattern) (a b : Mod) :
    (pattern.exchange a b).exchange a b = pattern := by
  simp only [exchange, List.map_map, Function.comp_def, Group.mirror_mirror, List.map_id']

theorem IsMerged.exchange (merged : pattern.IsMerged a b) :
    (pattern.exchange a b).IsMerged a b := by
  intro image member
  obtain ⟨group, inGroups, rfl⟩ := List.mem_map.mp member
  cases kind : group.kind with
  | required =>
    rw [Group.mirror_of_demand (.inl kind)]
    exact merged group inGroups
  | prohibited =>
    rw [Group.mirror_of_demand (.inr kind)]
    exact merged group inGroups
  | optional => exact Group.isMerged_of_choice (by simp [kind])
  | exclusive => exact Group.isMerged_of_choice (by simp [kind])

end Pattern

namespace Filter

variable {filter : Filter}

/-- Every pattern is merged after two modifiers were made synonyms. -/
theorem isMerged_of_mem_interchange (different : a ≠ b) {pattern : Pattern}
    (member : pattern ∈ (filter.interchange a b).patterns) : pattern.IsMerged a b := by
  obtain ⟨origin, _, rfl | rfl⟩ := (mem_interchange_iff different).mp member
  · exact origin.isMerged_merge a b
  · exact (origin.isMerged_merge a b).exchange

/-- After two modifiers were made synonyms, the counterpart of every pattern is there. -/
theorem exchange_mem_interchange (different : a ≠ b) {pattern : Pattern}
    (member : pattern ∈ (filter.interchange a b).patterns) :
    pattern.exchange a b ∈ (filter.interchange a b).patterns := by
  obtain ⟨origin, inPatterns, made⟩ := (mem_interchange_iff different).mp member
  refine (mem_interchange_iff different).mpr ⟨origin, inPatterns, ?_⟩
  rcases made with rfl | rfl
  · exact .inr rfl
  · exact .inl (Pattern.exchange_exchange _ a b)

/-- The second time keeps all patterns and adds the counterparts of all of them. -/
theorem patterns_interchange_interchange (different : a ≠ b) :
    ((filter.interchange a b).interchange a b).patterns =
      (filter.interchange a b).patterns ++
        (filter.interchange a b).patterns.filterMap (·.counterpart? a b) := by
  have merged : ∀ pattern ∈ (filter.interchange a b).patterns, pattern.merge a b = pattern :=
    fun _ member => (isMerged_of_mem_interchange different member).merge_eq
  generalize filter.interchange a b = once at merged
  rw [interchange, if_neg different, List.map_congr_left merged, List.map_id']

/-- The second time keeps all patterns in their places at the front. -/
theorem prefix_interchange_interchange (filter : Filter) (a b : Mod) :
    (filter.interchange a b).patterns <+: ((filter.interchange a b).interchange a b).patterns := by
  by_cases same : a = b
  · simp only [interchange, if_pos same, List.prefix_refl]
  · rw [patterns_interchange_interchange same]
    exact List.prefix_append _ _

/-- The second time brings in no pattern that is not there. -/
theorem interchange_interchange_subset (filter : Filter) (a b : Mod) :
    ((filter.interchange a b).interchange a b).patterns ⊆ (filter.interchange a b).patterns := by
  by_cases same : a = b
  · simp only [interchange, if_pos same, List.Subset.refl]
  intro pattern member
  rw [patterns_interchange_interchange same] at member
  rcases List.mem_append.mp member with old | added
  · exact old
  · obtain ⟨origin, inPatterns, found⟩ := List.mem_filterMap.mp added
    rw [(Pattern.mem_counterpart?_iff.mp found).2]
    exact exchange_mem_interchange same inPatterns

end Filter

/-- A pair of synonyms does nothing more when it is applied again. All patterns stay where they are,
and what follows them is there already, so that neither the outlook nor a verdict changes. -/
theorem interchange_again_is_harmless (filter : Filter) (a b : Mod) :
    let once := filter.interchange a b
    let twice := once.interchange a b
    once.patterns <+: twice.patterns ∧ twice.patterns ⊆ once.patterns ∧
      twice.inverted = once.inverted ∧ once.inverted = filter.inverted ∧
      twice.outlook = once.outlook ∧
      ∀ candidate, twice.accepts candidate = once.accepts candidate := by
  intro once twice
  have start : once.patterns <+: twice.patterns := filter.prefix_interchange_interchange a b
  have nothing : twice.patterns ⊆ once.patterns := filter.interchange_interchange_subset a b
  have inverted : twice.inverted = once.inverted := once.inverted_interchange a b
  have alike : once.Alike twice :=
    ⟨inverted, .of_mem_iff Pattern.renamed_refl fun _ =>
      ⟨fun member => start.subset member, fun member => nothing member⟩⟩
  refine ⟨start, nothing, inverted, filter.inverted_interchange a b, ?_, fun candidate => ?_⟩
  · exact Filter.Renamed.outlook_eq alike
  · have same := Filter.Renamed.accepts_eq alike rfl candidate
    rwa [Equiv.coe_refl, List.map_id] at same

end ScoreSieve
