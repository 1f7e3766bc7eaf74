import ScoreSieve.Proofs.NormalForm
import ScoreSieve.Proofs.Outlook

namespace ScoreSieve

namespace Pattern

/-- Holds of an exclusive group that the prohibited groups leave without a choice. -/
def IsDead (pattern : Pattern) (group : Group) : Prop :=
  ∀ mod ∈ group.mods, mod ∈ pattern.modsOf .prohibited

instance (pattern : Pattern) (group : Group) : Decidable (pattern.IsDead group) :=
  inferInstanceAs (Decidable (∀ mod ∈ group.mods, mod ∈ pattern.modsOf .prohibited))

/-- Holds if some group asks for a modifier, so that each applied one has to be listed. -/
def IsDemanding (pattern : Pattern) : Prop :=
  (∃ group ∈ pattern.groupsOf .required, group.mods ≠ []) ∨
    ∃ group ∈ pattern.groupsOf .exclusive, ¬ pattern.IsDead group

instance (pattern : Pattern) : Decidable pattern.IsDemanding :=
  inferInstanceAs (Decidable (_ ∨ _))

/-- Holds if a group lists the modifier and lets it be there: a required group, an exclusive group
that is not dead, or an optional group all of whose modifiers are present. -/
def Lists (pattern : Pattern) (mods : Finset Mod) (mod : Mod) : Prop :=
  (∃ group ∈ pattern.groupsOf .required, mod ∈ group.mods) ∨
  (∃ group ∈ pattern.groupsOf .exclusive, ¬ pattern.IsDead group ∧ mod ∈ group.mods) ∨
  ∃ group ∈ pattern.groupsOf .optional,
    (∀ other ∈ group.mods, other ∈ effective mods) ∧ mod ∈ group.mods

instance (pattern : Pattern) (mods : Finset Mod) (mod : Mod) :
    Decidable (pattern.Lists mods mod) :=
  inferInstanceAs (Decidable (_ ∨ _ ∨ _))

/-- What a pattern asks of the applied modifiers, inversion apart. -/
structure Admits (pattern : Pattern) (mods : Finset Mod) : Prop where
  required : ∀ group ∈ pattern.groupsOf .required, ∀ mod ∈ group.mods, mod ∈ effective mods
  exclusive : ∀ group ∈ pattern.groupsOf .exclusive, ¬ pattern.IsDead group →
    group.mods.countP (· ∈ effective mods) = 1
  prohibited : ∀ mod ∈ pattern.modsOf .prohibited, mod ∉ effective mods
  listed : pattern.IsDemanding → ∀ mod ∈ mods, pattern.Lists mods mod

/-- All that a pattern asks of modifiers, clause by clause. -/
theorem admits_def {pattern : Pattern} {mods : Finset Mod} :
    pattern.Admits mods ↔
      (∀ group ∈ pattern.groupsOf .required, ∀ mod ∈ group.mods, mod ∈ effective mods) ∧
      (∀ group ∈ pattern.groupsOf .exclusive, ¬ pattern.IsDead group →
        group.mods.countP (· ∈ effective mods) = 1) ∧
      (∀ mod ∈ pattern.modsOf .prohibited, mod ∉ effective mods) ∧
      (pattern.IsDemanding → ∀ mod ∈ mods, pattern.Lists mods mod) :=
  ⟨fun ⟨required, exclusive, prohibited, listed⟩ => ⟨required, exclusive, prohibited, listed⟩,
    fun ⟨required, exclusive, prohibited, listed⟩ => ⟨required, exclusive, prohibited, listed⟩⟩

instance (pattern : Pattern) (mods : Finset Mod) : Decidable (pattern.Admits mods) :=
  decidable_of_iff' _ admits_def

/-- The verdict that a pattern means. -/
def meaning (pattern : Pattern) (candidate : List Mod) : Bool :=
  decide (pattern.Admits (appliedSet candidate)) ^^ pattern.inverted

end Pattern

/-- The verdict that a filter means; without patterns it refuses nothing unless inverted. -/
def Filter.meaning (filter : Filter) (candidate : List Mod) : Bool :=
  (filter.patterns.isEmpty || filter.patterns.any (·.meaning candidate)) ^^ filter.inverted

namespace Pattern

variable {pattern : Pattern} {mods : Finset Mod}

theorem isDead_iff {group : Group} :
    pattern.IsDead group ↔ (group.without (pattern.modsOf .prohibited)).mods = [] := by
  simp [IsDead, Group.without, List.filter_eq_nil_iff, -mem_modsOf]

/-- Where no prohibited modifier is present, leaving them out of a group changes no count. -/
theorem countP_without (absent : ∀ mod ∈ pattern.modsOf .prohibited, mod ∉ mods) (group : Group) :
    (group.without (pattern.modsOf .prohibited)).mods.countP (· ∈ mods) =
      group.mods.countP (· ∈ mods) := by
  rw [Group.without, List.countP_filter]
  refine List.countP_congr fun mod _ => ?_
  have free : mod ∈ mods → mod ∉ pattern.modsOf .prohibited :=
    fun isPresent banned => absent mod banned isPresent
  simpa using free

theorem mem_effective_of_mem {mod : Mod} (member : mod ∈ mods) : mod ∈ effective mods := by
  rw [effective, if_neg (Finset.ne_empty_of_mem member)]
  exact member

/-- A group that is not dead is among the choices of the normal form, with something left to
choose. -/
theorem choice_of_alive {group : Group} (inGroups : group ∈ pattern.groupsOf .exclusive)
    (alive : ¬ pattern.IsDead group) :
    group.without (pattern.modsOf .prohibited) ∈ pattern.choices ∧
      (group.without (pattern.modsOf .prohibited)).mods ≠ [] :=
  ⟨mem_choices.mpr ⟨group, inGroups, rfl⟩, mt isDead_iff.mpr alive⟩

/-- A choice with something in it comes from a group that is not dead. The converse takes the group
to its choice. -/
theorem alive_of_choice {choice : Group} (inChoices : choice ∈ pattern.choices)
    (some : choice.mods ≠ []) :
    ∃ group ∈ pattern.groupsOf .exclusive, ¬ pattern.IsDead group ∧
      group.without (pattern.modsOf .prohibited) = choice := by
  obtain ⟨group, inGroups, rfl⟩ := mem_choices.mp inChoices
  exact ⟨group, inGroups, fun dead => some (isDead_iff.mp dead), rfl⟩

/-- A choice that is left is met like the exclusive group that it comes from. -/
theorem countP_choice (absent : ∀ mod ∈ pattern.modsOf .prohibited, mod ∉ mods)
    (exclusive : ∀ group ∈ pattern.groupsOf .exclusive, ¬ pattern.IsDead group →
      group.mods.countP (· ∈ mods) = 1)
    {choice : Group} (inChoices : choice ∈ pattern.choices) (some : choice.mods ≠ []) :
    choice.mods.countP (· ∈ mods) = 1 := by
  obtain ⟨group, inGroups, alive, rfl⟩ := alive_of_choice inChoices some
  rw [countP_without absent]
  exact exclusive group inGroups alive

theorem isDemanding_of_choice {choice : Group} (inChoices : choice ∈ pattern.choices)
    (some : choice.mods ≠ []) : pattern.IsDemanding := by
  obtain ⟨group, inGroups, alive, _⟩ := alive_of_choice inChoices some
  exact .inr ⟨group, inGroups, alive⟩

theorem isDemanding_of_demand {mod : Mod} (demand : mod ∈ pattern.demands) :
    pattern.IsDemanding := by
  rcases mem_demands.mp demand with inRequired | ⟨choice, inChoices, _, inChoice⟩
  · obtain ⟨group, inGroups, member⟩ := mem_modsOf.mp inRequired
    exact .inl ⟨group, inGroups, List.ne_nil_of_mem member⟩
  · exact isDemanding_of_choice inChoices (List.ne_nil_of_mem inChoice)

theorem lists_of_choice {choice : Group} {mod : Mod} (inChoices : choice ∈ pattern.choices)
    (inChoice : mod ∈ choice.mods) : pattern.Lists mods mod := by
  obtain ⟨group, inGroups, alive, rfl⟩ :=
    alive_of_choice inChoices (List.ne_nil_of_mem inChoice)
  exact .inr (.inl ⟨group, inGroups, alive, (Group.mem_without.mp inChoice).1⟩)

theorem lists_of_demand {mod : Mod} (demand : mod ∈ pattern.demands) : pattern.Lists mods mod := by
  rcases mem_demands.mp demand with inRequired | ⟨choice, inChoices, _, inChoice⟩
  · exact .inl (mem_modsOf.mp inRequired)
  · exact lists_of_choice inChoices inChoice

theorem mem_allMods_of_mem_modsOf {kind : Kind} {mod : Mod} (member : mod ∈ pattern.modsOf kind) :
    mod ∈ pattern.allMods := by
  obtain ⟨group, inGroups, listed⟩ := mem_modsOf.mp member
  exact mem_allMods.mpr ⟨group, (mem_groupsOf.mp inGroups).1, listed⟩

theorem mem_allMods_of_lists {mod : Mod} (lists : pattern.Lists mods mod) :
    mod ∈ pattern.allMods := by
  rcases lists with ⟨group, inGroups, listed⟩ | ⟨group, inGroups, _, listed⟩ |
    ⟨group, inGroups, _, listed⟩ <;>
    exact mem_allMods.mpr ⟨group, (mem_groupsOf.mp inGroups).1, listed⟩

/-- In the normal form every group holds exactly if the pattern meets the demands of its groups. -/
theorem normalize_holds_iff :
    (∀ group ∈ pattern.normalize.groups, group.Holds mods) ↔
      (∀ group ∈ pattern.groupsOf .required, ∀ mod ∈ group.mods, mod ∈ mods) ∧
      (∀ group ∈ pattern.groupsOf .exclusive, ¬ pattern.IsDead group →
        group.mods.countP (· ∈ mods) = 1) ∧
      ∀ mod ∈ pattern.modsOf .prohibited, mod ∉ mods := by
  constructor
  · intro holds
    have demanded : ∀ mod ∈ pattern.demands, mod ∈ mods := fun mod demand =>
      holds _ (required_mem_normalize demand) mod (Group.mem_ofMods.mpr demand)
    have absent : ∀ mod ∈ pattern.modsOf .prohibited, mod ∉ mods := fun mod banned =>
      holds _ (prohibited_mem_normalize banned) mod (Group.mem_ofMods.mpr banned)
    refine ⟨?_, ?_, absent⟩
    · intro group inGroups mod member
      exact demanded mod (mem_demands.mpr (.inl (mem_modsOf.mpr ⟨group, inGroups, member⟩)))
    · intro group inGroups alive
      obtain ⟨inChoices, some⟩ := choice_of_alive inGroups alive
      rw [← countP_without absent group]
      rcases choice_demanded_or_kept inChoices some with ⟨single, demand⟩ | kept
      · rw [← single, List.countP_eq_length]
        exact fun mod member => decide_eq_true (demanded mod (demand mod member))
      · have held := holds _ kept
        rwa [Group.Holds, kind_of_mem_choices inChoices] at held
  · rintro ⟨required, exclusive, absent⟩ group member
    rcases mem_normalize.mp member with ⟨_, rfl⟩ | ⟨inGroups, _⟩ | ⟨inChoices, many⟩ | ⟨_, rfl⟩
    · intro mod demand
      rcases mem_demands.mp (Group.mem_ofMods.mp demand) with
        inRequired | ⟨choice, inChoices, single, inChoice⟩
      · obtain ⟨origin, inGroups, inOrigin⟩ := mem_modsOf.mp inRequired
        exact required origin inGroups mod inOrigin
      · have all := countP_choice absent exclusive inChoices (List.ne_nil_of_mem inChoice)
        rw [← single, List.countP_eq_length] at all
        exact of_decide_eq_true (all mod inChoice)
    · rw [Group.Holds, (mem_groupsOf.mp inGroups).2]
      trivial
    · rw [Group.Holds, kind_of_mem_choices inChoices]
      exact countP_choice absent exclusive inChoices (List.ne_nil_of_length_pos (by omega))
    · exact fun mod banned => absent mod (Group.mem_ofMods.mp banned)

/-- A normal form is constrained exactly if the pattern asks for a modifier. -/
theorem isConstrained_normalize_iff :
    pattern.normalize.isConstrained = true ↔ pattern.IsDemanding := by
  rw [isConstrained_iff]
  constructor
  · rintro ⟨group, member, kind⟩
    rcases mem_normalize.mp member with
      ⟨some, rfl⟩ | ⟨inGroups, _⟩ | ⟨inChoices, many⟩ | ⟨_, rfl⟩
    · obtain ⟨mod, demand⟩ := List.exists_mem_of_ne_nil _ some
      exact isDemanding_of_demand demand
    · simp [(mem_groupsOf.mp inGroups).2] at kind
    · exact isDemanding_of_choice inChoices (List.ne_nil_of_length_pos (by omega))
    · simp at kind
  · rintro (⟨group, inGroups, some⟩ | ⟨group, inGroups, alive⟩)
    · obtain ⟨mod, member⟩ := List.exists_mem_of_ne_nil _ some
      have demand := mem_demands.mpr (.inl (mem_modsOf.mpr ⟨group, inGroups, member⟩))
      exact ⟨_, required_mem_normalize demand, .inl rfl⟩
    · obtain ⟨inChoices, some⟩ := choice_of_alive inGroups alive
      rcases choice_demanded_or_kept inChoices some with ⟨_, demand⟩ | kept
      · obtain ⟨mod, member⟩ := List.exists_mem_of_ne_nil _ some
        exact ⟨_, required_mem_normalize (demand mod member), .inl rfl⟩
      · exact ⟨_, kept, .inr (kind_of_mem_choices inChoices)⟩

/-- What is possible in the normal form is listed by the pattern. -/
theorem lists_of_possible {candidate : List Mod} {mod : Mod}
    (possible : mod ∈ pattern.normalize.possibleMods (·.isMissing (applied candidate))) :
    pattern.Lists (appliedSet candidate) mod := by
  obtain ⟨group, inNormal, ⟨kind, isThere⟩, member⟩ := mem_possibleMods.mp possible
  rcases mem_normalize.mp inNormal with ⟨_, rfl⟩ | ⟨inGroups, _⟩ | ⟨inChoices, _⟩ | ⟨_, rfl⟩
  · exact lists_of_demand (Group.mem_ofMods.mp member)
  · have all := (Group.isMissing_eq_false_iff (mem_groupsOf.mp inGroups).2 candidate).mp isThere
    exact .inr (.inr ⟨group, inGroups, all, member⟩)
  · exact lists_of_choice inChoices member
  · exact absurd rfl kind

/-- Where no prohibited modifier is present, what the pattern lists is possible in the normal
form. -/
theorem possible_of_lists {candidate : List Mod} {mod : Mod}
    (absent : ∀ mod ∈ pattern.modsOf .prohibited, mod ∉ effective (appliedSet candidate))
    (isApplied : mod ∈ appliedSet candidate) (listed : pattern.Lists (appliedSet candidate) mod) :
    mod ∈ pattern.normalize.possibleMods (·.isMissing (applied candidate)) := by
  have free : mod ∉ pattern.modsOf .prohibited :=
    fun banned => absent mod banned (mem_effective_of_mem isApplied)
  have ofGroup : ∀ group ∈ pattern.normalize.groups, group.kind ≠ .prohibited →
      group.kind ≠ .optional → mod ∈ group.mods →
      mod ∈ pattern.normalize.possibleMods (·.isMissing (applied candidate)) :=
    fun group inNormal kind solid member =>
      mem_possibleMods.mpr ⟨group, inNormal, ⟨kind, Group.not_isMissing solid _⟩, member⟩
  have ofDemand : mod ∈ pattern.demands →
      mod ∈ pattern.normalize.possibleMods (·.isMissing (applied candidate)) := fun demand =>
    ofGroup _ (required_mem_normalize demand) (by simp) (by simp) (Group.mem_ofMods.mpr demand)
  rcases listed with ⟨group, inGroups, member⟩ | ⟨group, inGroups, alive, member⟩ |
    ⟨group, inGroups, all, member⟩
  · exact ofDemand (mem_demands.mpr (.inl (mem_modsOf.mpr ⟨group, inGroups, member⟩)))
  · obtain ⟨inChoices, some⟩ := choice_of_alive inGroups alive
    have left : mod ∈ (group.without (pattern.modsOf .prohibited)).mods :=
      Group.mem_without.mpr ⟨member, free⟩
    have kind := kind_of_mem_choices inChoices
    rcases choice_demanded_or_kept inChoices some with ⟨_, demand⟩ | kept
    · exact ofDemand (demand mod left)
    · exact ofGroup _ kept (kind.trans_ne (by decide)) (kind.trans_ne (by decide)) left
  · have allowed : ∀ other ∈ group.mods, other ∉ pattern.modsOf .prohibited :=
      fun other inGroup banned => absent other banned (all other inGroup)
    have kind := (mem_groupsOf.mp inGroups).2
    have inNormal := mem_normalize.mpr (.inr (.inl ⟨inGroups, allowed⟩))
    have isThere := (Group.isMissing_eq_false_iff kind candidate).mpr all
    exact mem_possibleMods.mpr ⟨group, inNormal, ⟨kind.trans_ne (by decide), isThere⟩, member⟩

/-- The groups of the normal form admit what the groups as written ask for. -/
theorem admits_normalize_iff {candidate : List Mod} :
    pattern.normalize.admits (applied candidate) = true ↔
      pattern.Admits (appliedSet candidate) := by
  rw [admits_iff, normalize_holds_iff, isConstrained_normalize_iff, admits_def]
  simp only [and_assoc]
  refine and_congr_right fun _ => and_congr_right fun _ => and_congr_right fun absent => ?_
  exact forall_congr' fun _ => forall₂_congr fun _ isApplied =>
    ⟨lists_of_possible, possible_of_lists absent isApplied⟩

/-- A full evaluation of a pattern gives its meaning as the verdict. -/
theorem evaluate_eq_meaning (pattern : Pattern) (candidate : List Mod) :
    pattern.evaluate candidate = pattern.meaning candidate := by
  rw [evaluate, meaning, ← Bool.decide_coe (pattern.normalize.admits _)]
  simp only [admits_normalize_iff]

end Pattern

/-- Every verdict of every filter is the one that it means. -/
theorem accepts_eq_meaning (filter : Filter) (candidate : List Mod) :
    filter.accepts candidate = filter.meaning candidate := by
  simp only [Filter.accepts_eq_any_evaluate, Filter.meaning, Pattern.evaluate_eq_meaning]

/-- The filter `+[NMCL]` asks for `CL` or for nothing at all. -/
example :
    [[], [Mod.noMod], [Mod.classic], [⟨['H', 'D']⟩]].map (Filter.meaning
      ⟨[⟨[Group.ofMods .exclusive [Mod.noMod, Mod.classic]], false⟩], false⟩) =
        [true, true, true, false] := by decide

end ScoreSieve
