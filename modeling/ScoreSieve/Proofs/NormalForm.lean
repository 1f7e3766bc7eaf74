import ScoreSieve.Filter.Verdict

namespace ScoreSieve

namespace Pattern

theorem mem_choices {pattern : Pattern} {choice : Group} :
    choice ∈ pattern.choices ↔
      ∃ group ∈ pattern.groupsOf .exclusive,
        group.without (pattern.modsOf .prohibited) = choice := by
  simp [choices]

/-- The demands of a normal form are the required modifiers and every choice that is down to one
modifier. -/
theorem mem_demands {pattern : Pattern} {mod : Mod} :
    mod ∈ pattern.demands ↔
      mod ∈ pattern.modsOf .required ∨
        ∃ choice ∈ pattern.choices, choice.mods.length = 1 ∧ mod ∈ choice.mods := by
  simp only [demands, List.mem_append, List.mem_flatMap, List.mem_filter, beq_iff_eq, and_assoc]

/-- The groups of a normal form: the demands, the optional groups that are not prohibited in part,
the exclusive groups that leave a choice, and the prohibition. -/
theorem mem_normalize {pattern : Pattern} {group : Group} :
    group ∈ pattern.normalize.groups ↔
      (pattern.demands ≠ [] ∧ group = Group.ofMods .required pattern.demands) ∨
      (group ∈ pattern.groupsOf .optional ∧
        ∀ mod ∈ group.mods, mod ∉ pattern.modsOf .prohibited) ∨
      (group ∈ pattern.choices ∧ 1 < group.mods.length) ∨
      (pattern.modsOf .prohibited ≠ [] ∧
        group = Group.ofMods .prohibited (pattern.modsOf .prohibited)) := by
  have nonempty (mods : List Mod) (kind : Kind) :
      group ∈ (if mods.isEmpty then [] else [Group.ofMods kind mods]) ↔
        mods ≠ [] ∧ group = Group.ofMods kind mods := by
    cases mods with
    | nil => simp
    | cons mod rest => simp
  simp only [normalize, List.mem_append, nonempty, List.mem_filter, List.all_eq_true,
    decide_eq_true_eq, or_assoc]

theorem kind_of_mem_choices {pattern : Pattern} {choice : Group}
    (member : choice ∈ pattern.choices) : choice.kind = .exclusive := by
  obtain ⟨group, inGroups, rfl⟩ := mem_choices.mp member
  exact (mem_groupsOf.mp inGroups).2

theorem required_mem_normalize {pattern : Pattern} {mod : Mod} (demand : mod ∈ pattern.demands) :
    Group.ofMods .required pattern.demands ∈ pattern.normalize.groups :=
  mem_normalize.mpr (.inl ⟨List.ne_nil_of_mem demand, rfl⟩)

theorem prohibited_mem_normalize {pattern : Pattern} {mod : Mod}
    (banned : mod ∈ pattern.modsOf .prohibited) :
    Group.ofMods .prohibited (pattern.modsOf .prohibited) ∈ pattern.normalize.groups :=
  mem_normalize.mpr (.inr (.inr (.inr ⟨List.ne_nil_of_mem banned, rfl⟩)))

/-- A choice stays a group of the normal form, unless the one modifier in it becomes a demand. -/
theorem choice_demanded_or_kept {pattern : Pattern} {choice : Group}
    (inChoices : choice ∈ pattern.choices) (some : choice.mods ≠ []) :
    (choice.mods.length = 1 ∧ ∀ mod ∈ choice.mods, mod ∈ pattern.demands) ∨
      choice ∈ pattern.normalize.groups := by
  have positive := List.length_pos_iff.mpr some
  by_cases single : choice.mods.length = 1
  · exact .inl ⟨single, fun mod member =>
      mem_demands.mpr (.inr ⟨choice, inChoices, single, member⟩)⟩
  · exact .inr (mem_normalize.mpr (.inr (.inr (.inl ⟨inChoices, by omega⟩))))

variable {pattern image : Pattern}

@[simp] theorem inverted_normalize (pattern : Pattern) :
    pattern.normalize.inverted = pattern.inverted := rfl

/-- How the required modifiers are spread over groups makes no difference to the normal form. -/
theorem normalize_congr (inverted : image.inverted = pattern.inverted)
    (required : image.modsOf .required = pattern.modsOf .required)
    (groups : ∀ kind, kind ≠ .required → image.groupsOf kind = pattern.groupsOf kind) :
    image.normalize = pattern.normalize := by
  have optional := groups .optional (by decide)
  have prohibited : image.modsOf .prohibited = pattern.modsOf .prohibited := by
    rw [modsOf, modsOf, groups .prohibited (by decide)]
  have choices : image.choices = pattern.choices := by
    rw [Pattern.choices, Pattern.choices, groups .exclusive (by decide), prohibited]
  have demands : image.demands = pattern.demands := by
    rw [Pattern.demands, Pattern.demands, required, choices]
  simp only [normalize, optional, choices, demands, prohibited, inverted]

theorem inverted_eq_of_normalize_eq (same : image.normalize = pattern.normalize) :
    image.inverted = pattern.inverted := by
  rw [← image.inverted_normalize, same, inverted_normalize]

/-- The outlook of a pattern depends on nothing but its normal form. -/
theorem outlook_eq_of_normalize_eq (same : image.normalize = pattern.normalize) :
    image.outlook = pattern.outlook := by
  rw [outlook, outlook, same, inverted_eq_of_normalize_eq same]

/-- Verdicts depend on nothing but the normal form and the inverting mark. -/
theorem accepts_eq_of_normalize_eq (same : image.normalize = pattern.normalize)
    (candidate : List Mod) : image.accepts candidate = pattern.accepts candidate := by
  rw [accepts, accepts, outlook_eq_of_normalize_eq same, evaluate, evaluate, same,
    inverted_eq_of_normalize_eq same]

end Pattern

namespace Filter

variable {change : Pattern → Pattern}
  (same : ∀ pattern, (change pattern).normalize = pattern.normalize) (filter : Filter)

include same

theorem outlook_map_of_normalize_eq :
    Filter.outlook ⟨filter.patterns.map change, filter.inverted⟩ = filter.outlook := by
  have outlooks : ∀ pattern, (change pattern).outlook = pattern.outlook := fun pattern =>
    Pattern.outlook_eq_of_normalize_eq (same pattern)
  have unrestricted : ∀ pattern, (change pattern).isUnrestricted = pattern.isUnrestricted := by
    simp only [Pattern.isUnrestricted, outlooks, implies_true]
  simp only [outlook, List.isEmpty_map, List.any_map, List.all_map, Function.comp_def, outlooks,
    unrestricted]

/-- Changing patterns without changing their normal forms changes no verdict of the filter. -/
theorem accepts_map_of_normalize_eq (candidate : List Mod) :
    Filter.accepts ⟨filter.patterns.map change, filter.inverted⟩ candidate =
      filter.accepts candidate := by
  have verdicts : ∀ pattern, (change pattern).accepts candidate = pattern.accepts candidate :=
    fun pattern => Pattern.accepts_eq_of_normalize_eq (same pattern) candidate
  rw [accepts, accepts, outlook_map_of_normalize_eq same]
  simp only [List.any_map, Function.comp_def, verdicts]

end Filter

end ScoreSieve
