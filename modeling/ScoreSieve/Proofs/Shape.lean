import ScoreSieve.Proofs.Renaming

namespace ScoreSieve

namespace Pattern

/-- Holds of a pattern that refuses nothing: it neither asks for a modifier nor prohibits one. -/
def IsIdle (pattern : Pattern) : Prop :=
  ¬ pattern.IsDemanding ∧ pattern.modsOf .prohibited = []

instance (pattern : Pattern) : Decidable pattern.IsIdle :=
  inferInstanceAs (Decidable (_ ∧ _))

/-- Holds of a pattern that names some modifier both in a required and in a prohibited group. -/
def IsContradictory (pattern : Pattern) : Prop :=
  ∃ mod ∈ pattern.modsOf .required, mod ∈ pattern.modsOf .prohibited

instance (pattern : Pattern) : Decidable pattern.IsContradictory :=
  inferInstanceAs (Decidable (∃ mod ∈ _, _))

variable {pattern : Pattern}

theorem mem_modsOf_required_normalize {mod : Mod} :
    mod ∈ pattern.normalize.modsOf .required ↔ mod ∈ pattern.demands := by
  rw [mem_modsOf]
  constructor
  · rintro ⟨group, inGroups, member⟩
    obtain ⟨inNormal, kind⟩ := mem_groupsOf.mp inGroups
    rcases mem_normalize.mp inNormal with ⟨_, rfl⟩ | ⟨optional, _⟩ | ⟨choice, _⟩ | ⟨_, rfl⟩
    · exact Group.mem_ofMods.mp member
    · exact absurd ((mem_groupsOf.mp optional).2.symm.trans kind) (by decide)
    · exact absurd ((kind_of_mem_choices choice).symm.trans kind) (by decide)
    · exact absurd kind (by simp)
  · intro demand
    exact ⟨_, mem_groupsOf.mpr ⟨required_mem_normalize demand, rfl⟩, Group.mem_ofMods.mpr demand⟩

theorem mem_modsOf_prohibited_normalize {mod : Mod} :
    mod ∈ pattern.normalize.modsOf .prohibited ↔ mod ∈ pattern.modsOf .prohibited := by
  rw [mem_modsOf]
  constructor
  · rintro ⟨group, inGroups, member⟩
    obtain ⟨inNormal, kind⟩ := mem_groupsOf.mp inGroups
    rcases mem_normalize.mp inNormal with ⟨_, rfl⟩ | ⟨optional, _⟩ | ⟨choice, _⟩ | ⟨_, rfl⟩
    · exact absurd kind (by simp)
    · exact absurd ((mem_groupsOf.mp optional).2.symm.trans kind) (by decide)
    · exact absurd ((kind_of_mem_choices choice).symm.trans kind) (by decide)
    · exact Group.mem_ofMods.mp member
  · intro banned
    exact ⟨_, mem_groupsOf.mpr ⟨prohibited_mem_normalize banned, rfl⟩, Group.mem_ofMods.mpr banned⟩

/-- Nothing but optional groups is left of a pattern exactly if it refuses nothing. -/
theorem normalize_optional_iff :
    (∀ group ∈ pattern.normalize.groups, group.kind = .optional) ↔ pattern.IsIdle := by
  constructor
  · intro optional
    refine ⟨fun demanding => ?_, List.eq_nil_iff_forall_not_mem.mpr fun mod banned => ?_⟩
    · obtain ⟨group, member, kind⟩ :=
        isConstrained_iff.mp (isConstrained_normalize_iff.mpr demanding)
      simp [optional group member] at kind
    · exact absurd (optional _ (prohibited_mem_normalize banned)) (by simp)
  · rintro ⟨idle, free⟩ group member
    rcases mem_normalize.mp member with ⟨some, _⟩ | ⟨optional, _⟩ | ⟨choice, many⟩ | ⟨some, _⟩
    · obtain ⟨mod, demand⟩ := List.exists_mem_of_ne_nil _ some
      exact absurd (isDemanding_of_demand demand) idle
    · exact (mem_groupsOf.mp optional).2
    · exact absurd (isDemanding_of_choice choice (List.ne_nil_of_length_pos (by omega))) idle
    · exact absurd free some

/-- What the normal form both demands and prohibits was required: a choice is never prohibited. -/
theorem isContradictory_normalize_iff :
    pattern.normalize.IsContradictory ↔ pattern.IsContradictory := by
  simp only [IsContradictory, mem_modsOf_required_normalize, mem_modsOf_prohibited_normalize]
  refine exists_congr fun mod => and_congr_left fun banned => ⟨fun demand => ?_, fun required => ?_⟩
  · rcases mem_demands.mp demand with required | ⟨choice, inChoices, _, member⟩
    · exact required
    · obtain ⟨group, _, rfl⟩ := mem_choices.mp inChoices
      exact absurd banned (Group.mem_without.mp member).2
  · exact mem_demands.mpr (.inl required)

/-- The outlook of a pattern is decided by its groups as they are written. -/
theorem outlook_eq (pattern : Pattern) :
    pattern.outlook =
      Outlook.invertedIf pattern.inverted
        (if pattern.IsIdle then .always true
        else if pattern.IsContradictory then .always false
        else .undecided) := by
  have idle : pattern.normalize.groups.all (·.kind = .optional) = true ↔ pattern.IsIdle := by
    simpa using normalize_optional_iff
  have contradictory : (pattern.normalize.modsOf .required).any
      (· ∈ pattern.normalize.modsOf .prohibited) = true ↔ pattern.IsContradictory := by
    rw [← isContradictory_normalize_iff]
    simp only [List.any_eq_true, decide_eq_true_eq, IsContradictory]
  simp only [outlook, outlookOf, idle, contradictory]

end Pattern

variable {σ : Equiv.Perm Mod}

namespace Pattern.Renamed

variable {pattern image : Pattern} (renamed : Pattern.Renamed σ pattern image)

include renamed

theorem isIdle_iff : image.IsIdle ↔ pattern.IsIdle := by
  refine and_congr (not_congr renamed.isDemanding_iff) ?_
  rw [List.eq_nil_iff_forall_not_mem, List.eq_nil_iff_forall_not_mem, ← σ.forall_congr_right]
  exact forall_congr' fun _ => not_congr renamed.mem_modsOf_iff

theorem isContradictory_iff : image.IsContradictory ↔ pattern.IsContradictory := by
  unfold IsContradictory
  rw [← σ.exists_congr_right]
  exact exists_congr fun _ => and_congr renamed.mem_modsOf_iff renamed.mem_modsOf_iff

theorem outlook_eq : image.outlook = pattern.outlook := by
  simp only [Pattern.outlook_eq, renamed.isIdle_iff, renamed.isContradictory_iff, renamed.inverted]

end Pattern.Renamed

/-- Renamed filters have the same outlook. -/
theorem Filter.Renamed.outlook_eq {filter image : Filter}
    (renamed : Filter.Renamed σ filter image) : image.outlook = filter.outlook := by
  have some : image.patterns.any Pattern.isUnrestricted =
      filter.patterns.any Pattern.isUnrestricted := by
    rw [Bool.eq_iff_iff, List.any_eq_true, List.any_eq_true]
    exact renamed.patterns.exists_iff fun _ _ _ same => by
      rw [Pattern.isUnrestricted, Pattern.isUnrestricted, same.outlook_eq]
  have all : image.patterns.all (·.outlook = .always false) =
      filter.patterns.all (·.outlook = .always false) := by
    rw [Bool.eq_iff_iff, List.all_eq_true, List.all_eq_true]
    exact renamed.patterns.forall_iff fun _ _ _ same => by rw [same.outlook_eq]
  simp only [outlook, renamed.patterns.isEmpty_eq, some, all, renamed.inverted]

end ScoreSieve
