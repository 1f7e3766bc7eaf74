import ScoreSieve.Proofs.Merging
import ScoreSieve.Proofs.Reread
import ScoreSieve.Proofs.Shape

namespace ScoreSieve

namespace Group

/-- The group of one kind that lists the modifiers, if there are any. -/
def ofSome (kind : Kind) (mods : List Mod) : List Group :=
  if mods.isEmpty then [] else [Group.ofMods kind mods]

variable {kind : Kind} {mods : List Mod} {group : Group}

theorem mem_ofSome : group ∈ ofSome kind mods ↔ mods ≠ [] ∧ group = Group.ofMods kind mods := by
  cases mods <;> simp [ofSome]

/-- Holds of at most one group, which lists something. -/
def IsSole (groups : List Group) : Prop :=
  groups.length ≤ 1 ∧ ∀ group ∈ groups, group.mods ≠ []

instance (groups : List Group) : Decidable (IsSole groups) :=
  inferInstanceAs (Decidable (_ ∧ _))

theorem isSole_ofSome (kind : Kind) (mods : List Mod) : IsSole (ofSome kind mods) := by
  refine ⟨by unfold ofSome; split <;> simp, fun group member => ?_⟩
  obtain ⟨some, rfl⟩ := mem_ofSome.mp member
  obtain ⟨mod, listed⟩ := List.exists_mem_of_ne_nil _ some
  exact List.ne_nil_of_mem (mem_ofMods.mpr listed)

/-- A sole group is made of the modifiers in it. -/
theorem ofSome_distinct {groups : List Group} (kinds : ∀ group ∈ groups, group.kind = kind)
    (sole : IsSole groups) : ofSome kind (distinct (groups.flatMap Group.mods)) = groups := by
  match groups with
  | [] => rfl
  | [group] =>
    obtain rfl := kinds group (List.mem_singleton_self _)
    have listed := sole.2 group (List.mem_singleton_self _)
    rw [List.flatMap_singleton, distinct_eq_self group.nodup, ofSome,
      if_neg (by simpa using listed), group.ofMods_mods]
  | _ :: _ :: _ => simp [IsSole] at sole

theorem filter_kind {groups : List Group} {other : Kind}
    (kinds : ∀ group ∈ groups, group.kind = kind) :
    groups.filter (·.kind = other) = if kind = other then groups else [] := by
  split
  next same =>
    exact List.filter_eq_self.mpr fun group member => by simp [kinds group member, same]
  next differ =>
    exact List.filter_eq_nil_iff.mpr fun group member => by simp [kinds group member, differ]

end Group

namespace Pattern

variable {pattern : Pattern}

/-- The groups that the normal form has of a kind. -/
def normalOf (pattern : Pattern) : Kind → List Group
  | .required => Group.ofSome .required pattern.demands
  | .optional =>
    (pattern.groupsOf .optional).filter fun group => group.mods.all (· ∉ pattern.modsOf .prohibited)
  | .exclusive => pattern.choices.filter (1 < ·.mods.length)
  | .prohibited => Group.ofSome .prohibited (pattern.modsOf .prohibited)

theorem groups_normalize (pattern : Pattern) :
    pattern.normalize.groups = pattern.normalOf .required ++ pattern.normalOf .optional ++
      pattern.normalOf .exclusive ++ pattern.normalOf .prohibited := rfl

theorem kind_of_mem_normalOf {kind : Kind} :
    ∀ group ∈ pattern.normalOf kind, group.kind = kind := by
  intro group member
  cases kind with
  | required => rw [(Group.mem_ofSome.mp member).2, Group.kind_ofMods]
  | optional => exact (mem_groupsOf.mp (List.mem_filter.mp member).1).2
  | exclusive => exact kind_of_mem_choices (List.mem_filter.mp member).1
  | prohibited => rw [(Group.mem_ofSome.mp member).2, Group.kind_ofMods]

theorem groupsOf_normalize (kind : Kind) :
    pattern.normalize.groupsOf kind = pattern.normalOf kind := by
  simp only [groupsOf, groups_normalize, List.filter_append, Group.filter_kind kind_of_mem_normalOf]
  cases kind <;> simp

/-- Holds of a pattern whose groups stand in the order of a normal form and are like the ones there:
at most one required and one prohibited group, exclusive groups that leave a choice, and nothing in
an optional or an exclusive group that is prohibited. -/
structure IsNormal (pattern : Pattern) : Prop where
  order : pattern.groups = pattern.groupsOf .required ++ pattern.groupsOf .optional ++
    pattern.groupsOf .exclusive ++ pattern.groupsOf .prohibited
  required : Group.IsSole (pattern.groupsOf .required)
  exclusive : ∀ group ∈ pattern.groupsOf .exclusive, 2 ≤ group.mods.length
  free : ∀ group ∈ pattern.groups, group.kind = .optional ∨ group.kind = .exclusive →
    ∀ mod ∈ group.mods, mod ∉ pattern.modsOf .prohibited
  prohibited : Group.IsSole (pattern.groupsOf .prohibited)

/-- Normalizing puts every pattern in normal form. -/
theorem isNormal_normalize (pattern : Pattern) : pattern.normalize.IsNormal where
  order := by simp only [groupsOf_normalize, groups_normalize]
  required := by
    rw [groupsOf_normalize]
    exact Group.isSole_ofSome _ _
  exclusive group member := by
    rw [groupsOf_normalize] at member
    exact of_decide_eq_true (List.mem_filter.mp member).2
  free group member kind mod listed := by
    rw [mem_modsOf_prohibited_normalize]
    rcases mem_normalize.mp member with ⟨_, rfl⟩ | ⟨_, free⟩ | ⟨choice, _⟩ | ⟨_, rfl⟩
    · simp at kind
    · exact free mod listed
    · obtain ⟨origin, _, rfl⟩ := mem_choices.mp choice
      exact (Group.mem_without.mp listed).2
    · simp at kind
  prohibited := by
    rw [groupsOf_normalize]
    exact Group.isSole_ofSome _ _

namespace IsNormal

variable (normal : pattern.IsNormal)

include normal

/-- A pattern in normal form has no prohibited modifier left in its choices. -/
theorem choices_eq : pattern.choices = pattern.groupsOf .exclusive := by
  refine (List.map_congr_left fun group member => ?_).trans (List.map_id _)
  obtain ⟨inGroups, kind⟩ := mem_groupsOf.mp member
  exact Group.without_eq_self (normal.free group inGroups (.inr kind))

/-- Every exclusive group leaves a choice, so that none of them becomes a demand. -/
theorem demands_eq : pattern.demands = pattern.modsOf .required := by
  have several : (pattern.groupsOf .exclusive).filter (·.mods.length == 1) = [] := by
    refine List.filter_eq_nil_iff.mpr fun group member => ?_
    have wide := normal.exclusive group member
    simp only [beq_iff_eq]
    omega
  rw [demands, normal.choices_eq, several, List.flatMap_nil, List.append_nil]

theorem normalOf_eq (kind : Kind) : pattern.normalOf kind = pattern.groupsOf kind := by
  have kinds (kind : Kind) : ∀ group ∈ pattern.groupsOf kind, group.kind = kind :=
    fun group member => (mem_groupsOf.mp member).2
  cases kind with
  | required =>
    rw [normalOf, normal.demands_eq]
    exact Group.ofSome_distinct (kinds .required) normal.required
  | optional =>
    refine List.filter_eq_self.mpr fun group member => ?_
    obtain ⟨inGroups, kind⟩ := mem_groupsOf.mp member
    simpa using normal.free group inGroups (.inl kind)
  | exclusive =>
    rw [normalOf, normal.choices_eq]
    exact List.filter_eq_self.mpr fun group member => decide_eq_true (normal.exclusive group member)
  | prohibited => exact Group.ofSome_distinct (kinds .prohibited) normal.prohibited

/-- Normalizing leaves every pattern alone that is in normal form. -/
theorem normalize_eq : pattern.normalize = pattern := by
  have groups : pattern.normalize.groups = pattern.groups := by
    rw [groups_normalize, normal.order]
    simp only [normal.normalOf_eq]
  obtain ⟨_, inverted⟩ := pattern
  exact congrArg (Pattern.mk · inverted) groups

/-- There is but one required group, and so no two of them are next to each other. -/
theorem isChain : pattern.groups.IsChain Group.Apart := by
  have bracketed {kind : Kind} (other : kind ≠ .required) :
      ∀ group ∈ pattern.groupsOf kind, group.kind ≠ .required :=
    fun group member => (mem_groupsOf.mp member).2 ▸ other
  have first : (pattern.groupsOf .required).IsChain Group.Apart := by
    match sole : pattern.groupsOf .required with
    | [] => exact .nil
    | [group] => exact .singleton group
    | _ :: _ :: _ => simpa [sole] using normal.required.1
  rw [normal.order]
  exact isChain_append_bracketed (isChain_append_bracketed (isChain_append_bracketed first
    (bracketed (by decide))) (bracketed (by decide))) (bracketed (by decide))

end IsNormal

theorem normalize_normalize (pattern : Pattern) : pattern.normalize.normalize = pattern.normalize :=
  pattern.isNormal_normalize.normalize_eq

theorem mem_allMods_of_mem_normalize {group : Group} (member : group ∈ pattern.normalize.groups)
    {mod : Mod} (listed : mod ∈ group.mods) : mod ∈ pattern.allMods := by
  have ofChoice {choice : Group} (inChoices : choice ∈ pattern.choices)
      (inChoice : mod ∈ choice.mods) : mod ∈ pattern.allMods := by
    obtain ⟨origin, inGroups, rfl⟩ := mem_choices.mp inChoices
    exact mem_allMods.mpr ⟨origin, (mem_groupsOf.mp inGroups).1, (Group.mem_without.mp inChoice).1⟩
  rcases mem_normalize.mp member with ⟨_, rfl⟩ | ⟨optional, _⟩ | ⟨choice, _⟩ | ⟨_, rfl⟩
  · rcases mem_demands.mp (Group.mem_ofMods.mp listed) with
      required | ⟨choice, inChoices, _, inChoice⟩
    · exact mem_allMods_of_mem_modsOf required
    · exact ofChoice inChoices inChoice
  · exact mem_allMods.mpr ⟨group, (mem_groupsOf.mp optional).1, listed⟩
  · exact ofChoice choice listed
  · exact mem_allMods_of_mem_modsOf (Group.mem_ofMods.mp listed)

/-- A group that still leaves a choice leaves something in the normal form. -/
theorem normalize_ne_nil_of_exclusive {group : Group} (member : group ∈ pattern.groups)
    (exclusive : group.kind = .exclusive) (alive : ¬ pattern.IsDead group) :
    pattern.normalize.groups ≠ [] := by
  obtain ⟨inChoices, some⟩ := choice_of_alive (mem_groupsOf.mpr ⟨member, exclusive⟩) alive
  rcases choice_demanded_or_kept inChoices some with ⟨_, demanded⟩ | kept
  · obtain ⟨mod, listed⟩ := List.exists_mem_of_ne_nil _ some
    exact List.ne_nil_of_mem (required_mem_normalize (demanded mod listed))
  · exact List.ne_nil_of_mem kept

namespace IsWritable

variable (writable : pattern.IsWritable)

include writable

/-- What a pattern loses in its normal form, it loses to a prohibition or to a choice. -/
theorem normalize_ne_nil : pattern.normalize.groups ≠ [] := by
  by_cases banned : ∃ mod, mod ∈ pattern.modsOf .prohibited
  · obtain ⟨mod, prohibited⟩ := banned
    exact List.ne_nil_of_mem (prohibited_mem_normalize prohibited)
  rw [not_exists] at banned
  have ofExclusive {group : Group} (member : group ∈ pattern.groups)
      (exclusive : group.kind = .exclusive) : pattern.normalize.groups ≠ [] := by
    refine normalize_ne_nil_of_exclusive member exclusive fun dead => ?_
    obtain ⟨mod, listed⟩ :=
      List.exists_mem_of_ne_nil _ (writable.listed group member (by simp [exclusive]))
    exact banned mod (dead mod listed)
  obtain ⟨group, member⟩ := List.exists_mem_of_ne_nil _ writable.some
  cases kind : group.kind with
  | required =>
    cases written : group.isWritten with
    | true =>
      have some : group.mods ≠ [] := by simpa [Group.isWritten, kind] using written
      obtain ⟨mod, listed⟩ := List.exists_mem_of_ne_nil _ some
      have required := mem_modsOf.mpr ⟨group, mem_groupsOf.mpr ⟨member, kind⟩, listed⟩
      exact List.ne_nil_of_mem (required_mem_normalize (mem_demands.mpr (.inl required)))
    | false =>
      obtain ⟨choice, isGroup, exclusive⟩ :=
        hasKind_iff.mp (writable.replaced group member written)
      exact ofExclusive isGroup exclusive
  | optional =>
    exact List.ne_nil_of_mem (mem_normalize.mpr (.inr (.inl
      ⟨mem_groupsOf.mpr ⟨member, kind⟩, fun mod _ => banned mod⟩)))
  | exclusive => exact ofExclusive member kind
  | prohibited =>
    obtain ⟨mod, listed⟩ :=
      List.exists_mem_of_ne_nil _ (writable.listed group member (by simp [kind]))
    exact absurd (mem_modsOf.mpr ⟨group, mem_groupsOf.mpr ⟨member, kind⟩, listed⟩) (banned mod)

/-- The normal form of a writable pattern can be written, and its text spells it. -/
theorem isCanonical_normalize : pattern.normalize.IsCanonical where
  some := writable.normalize_ne_nil
  groups group member := by
    refine ⟨?_, fun mod listed => ?_⟩
    · have normal := pattern.isNormal_normalize
      cases kind : group.kind with
      | required => exact normal.required.2 group (mem_groupsOf.mpr ⟨member, kind⟩)
      | optional =>
        have optional : group ∈ pattern.normalOf .optional := by
          rw [← groupsOf_normalize]
          exact mem_groupsOf.mpr ⟨member, kind⟩
        obtain ⟨inGroups, _⟩ := mem_groupsOf.mp (List.mem_filter.mp optional).1
        exact writable.listed group inGroups (by simp [kind])
      | exclusive =>
        have wide := normal.exclusive group (mem_groupsOf.mpr ⟨member, kind⟩)
        exact List.ne_nil_of_length_pos (by omega)
      | prohibited => exact normal.prohibited.2 group (mem_groupsOf.mpr ⟨member, kind⟩)
    · obtain ⟨origin, inPattern, inOrigin⟩ :=
        mem_allMods.mp (mem_allMods_of_mem_normalize member listed)
      exact writable.codes origin inPattern mod inOrigin
  apart := pattern.isNormal_normalize.isChain

end IsWritable

theorem IsCanonical.parse_text (canonical : pattern.IsCanonical) :
    Pattern.parse pattern.text = .ok pattern :=
  parseAt_eq_ok_iff.mpr (spellsPattern_text canonical)

end Pattern

/-- A normal form can be shown and entered again. Normalizing it changes nothing, and its groups
stand in the order of a normal form. The normal form of a pattern that was read, or that rules with
two-letter codes made of what was read, is what its own text is read as, and it has the outlook and
the verdicts of the pattern. -/
theorem normalize_can_be_reentered :
    (∀ pattern : Pattern, pattern.normalize.normalize = pattern.normalize ∧
      pattern.normalize.IsNormal) ∧
    ∀ (text : List Char) (filter : Filter), Filter.parse text = .ok filter →
      ∀ pattern : Pattern,
        (pattern ∈ filter.patterns ∨ ∃ rules : Rules,
          (Rewrite.apply rules).IsCoded ∧ pattern ∈ (rules.apply filter).patterns) →
        Pattern.parse pattern.normalize.text = .ok pattern.normalize ∧
          pattern.normalize.outlook = pattern.outlook ∧
          ∀ candidate, pattern.normalize.accepts candidate = pattern.accepts candidate := by
  refine ⟨fun pattern => ⟨pattern.normalize_normalize, pattern.isNormal_normalize⟩, ?_⟩
  intro text filter read pattern origin
  have first := (Filter.isCanonical_of_parse read).isWritable
  have writable : pattern.IsWritable := by
    rcases origin with member | ⟨rules, coded, member⟩
    · exact first.patterns pattern member
    · exact (coded.isResumable.writable filter first).patterns pattern member
  have same := pattern.normalize_normalize
  exact ⟨writable.isCanonical_normalize.parse_text, Pattern.outlook_eq_of_normalize_eq same,
    Pattern.accepts_eq_of_normalize_eq same⟩

/-- The base profile makes `[HDFL](EZ){FLEZ}[DTNC]` of `DT[HDFL](EZ){FLEZ}`, with an emptied group
in front. In its normal form `HD` is required, and the optional group is gone. -/
theorem normalize_can_be_reentered_after_rules :
    let hidden : Mod := ⟨['H', 'D']⟩
    let flashlight : Mod := ⟨['F', 'L']⟩
    let easy : Mod := ⟨['E', 'Z']⟩
    let doubleTime : Mod := ⟨['D', 'T']⟩
    let bracketed : List Group := [Group.ofMods .exclusive [hidden, flashlight],
      Group.ofMods .optional [easy], Group.ofMods .prohibited [flashlight, easy]]
    let filter : Filter := ⟨[⟨Group.ofMods .required [doubleTime] :: bracketed, true⟩], false⟩
    let rules : Rules := {}
    let pattern : Pattern := ⟨Group.ofMods .required [] :: bracketed ++
      [Group.ofMods .exclusive [doubleTime, ⟨['N', 'C']⟩]], true⟩
    Filter.parse "+^DT[HDFL](EZ)\x7bFLEZ\x7d".toList = .ok filter ∧
      (Rewrite.apply rules).IsCoded ∧ pattern ∈ (rules.apply filter).patterns ∧
      pattern.normalize.text = "^HD[DTNC]\x7bFLEZ\x7d".toList ∧
      Pattern.parse pattern.normalize.text = .ok pattern.normalize ∧
      pattern.normalize.outlook = pattern.outlook ∧
      ∀ candidate, pattern.normalize.accepts candidate = pattern.accepts candidate := by
  intro hidden flashlight easy doubleTime bracketed filter rules pattern
  have read : Filter.parse "+^DT[HDFL](EZ)\x7bFLEZ\x7d".toList = .ok filter := by decide +kernel
  have coded : (Rewrite.apply rules).IsCoded := by decide
  have member : pattern ∈ (rules.apply filter).patterns := by decide
  exact ⟨read, coded, member, by decide,
    normalize_can_be_reentered.2 _ filter read pattern (.inr ⟨rules, coded, member⟩)⟩

end ScoreSieve
