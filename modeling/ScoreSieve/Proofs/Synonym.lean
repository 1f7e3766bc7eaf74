import ScoreSieve.Profile.Basic
import ScoreSieve.Proofs.Renaming

namespace ScoreSieve

variable {σ : Equiv.Perm Mod} {a b : Mod}

namespace Group.Renamed

variable {group image : Group} (renamed : Group.Renamed σ group image)

include renamed

theorem mem_fixed_iff {fixed : Mod} (fix : σ fixed = fixed) :
    fixed ∈ image.mods ↔ fixed ∈ group.mods := by
  rw [← renamed.mods, fix]

theorem mentions_eq (fixA : σ a = a) (fixB : σ b = b) :
    image.mentions a b = group.mentions a b := by
  simp only [mentions, renamed.mem_fixed_iff fixA, renamed.mem_fixed_iff fixB]

theorem demands_eq (fixA : σ a = a) (fixB : σ b = b) : image.demands a b = group.demands a b := by
  simp only [demands, renamed.kind, renamed.mentions_eq fixA fixB]

theorem favours_eq (fixA : σ a = a) (fixB : σ b = b) : image.favours a b = group.favours a b := by
  simp only [favours, renamed.kind, renamed.mem_fixed_iff fixA, renamed.mem_fixed_iff fixB]

theorem without (fixA : σ a = a) (fixB : σ b = b) :
    Group.Renamed σ (group.without [a, b]) (image.without [a, b]) where
  kind := renamed.kind
  mods mod := by simp [renamed.mods, apply_eq_fixed_iff fixA, apply_eq_fixed_iff fixB]

theorem add {fixed : Mod} (fix : σ fixed = fixed) :
    Group.Renamed σ (group.add fixed) (image.add fixed) where
  kind := renamed.kind
  mods mod := by simp [renamed.mods, apply_eq_fixed_iff fix]

theorem swap (fixA : σ a = a) (fixB : σ b = b) :
    Group.Renamed σ (group.swap a b) (image.swap a b) where
  kind := renamed.kind
  mods mod := by
    simp [renamed.mods, renamed.mem_fixed_iff fixA, apply_eq_fixed_iff fixA,
      apply_eq_fixed_iff fixB]

theorem exchange (fixA : σ a = a) (fixB : σ b = b) :
    Group.Renamed σ (group.exchange a b) (image.exchange a b) := by
  unfold Group.exchange
  simp only [renamed.mem_fixed_iff fixA]
  split
  · exact renamed.swap fixA fixB
  · exact renamed.swap fixB fixA

/-- A renaming that fixes two modifiers can be done before or after they are merged. -/
theorem merge (fixA : σ a = a) (fixB : σ b = b) :
    Group.Renamed σ (group.merge a b) (image.merge a b) := by
  unfold Group.merge
  rw [renamed.demands_eq fixA fixB, renamed.mentions_eq fixA fixB, renamed.kind]
  split
  · exact renamed.without fixA fixB
  split
  · exact (renamed.add fixA).add fixB
  · exact renamed

end Group.Renamed

/-- A group of modifiers that the renaming leaves alone. -/
theorem Group.renamed_ofMods {mods : List Mod} (fixed : ∀ mod, σ mod ∈ mods ↔ mod ∈ mods)
    (kind : Kind) : (Group.ofMods kind mods).Renamed σ (Group.ofMods kind mods) where
  kind := rfl
  mods mod := by simp [fixed]

/-- The group with `a` and `b` exchanged if it favours one of them. -/
def Group.mirror (group : Group) (a b : Mod) : Group :=
  if group.favours a b then group.exchange a b else group

@[simp] theorem Group.kind_merge (group : Group) (a b : Mod) :
    (group.merge a b).kind = group.kind := by
  unfold merge
  split
  · rfl
  split <;> rfl

@[simp] theorem Group.kind_exchange (group : Group) (a b : Mod) :
    (group.exchange a b).kind = group.kind := by
  unfold exchange
  split <;> rfl

@[simp] theorem Group.kind_mirror (group : Group) (a b : Mod) :
    (group.mirror a b).kind = group.kind := by
  unfold mirror
  split
  · exact group.kind_exchange a b
  · rfl

theorem Group.kind_of_favours {group : Group} (favours : group.favours a b = true) :
    group.kind ≠ .required := by
  intro required
  simp [Group.favours, required] at favours

/-- A renaming that fixes two modifiers can be done before or after they are exchanged. -/
theorem Group.Renamed.mirror {group image : Group} (renamed : Group.Renamed σ group image)
    (fixA : σ a = a) (fixB : σ b = b) :
    Group.Renamed σ (group.mirror a b) (image.mirror a b) := by
  unfold Group.mirror
  rw [renamed.favours_eq fixA fixB]
  split
  · exact renamed.exchange fixA fixB
  · exact renamed

namespace Pattern

/-- The pattern with `a` and `b` exchanged in the groups that favour one of them. -/
def exchange (pattern : Pattern) (a b : Mod) : Pattern :=
  { pattern with groups := pattern.groups.map (·.mirror a b) }

/-- The counterpart of a pattern is the pattern with two modifiers exchanged, and only patterns that
favour one of them have one. -/
theorem mem_counterpart?_iff {pattern counterpart : Pattern} :
    counterpart ∈ pattern.counterpart? a b ↔
      pattern.groups.any (·.favours a b) = true ∧ counterpart = pattern.exchange a b := by
  unfold counterpart?
  split
  next some =>
    exact ⟨fun same => ⟨some, (Option.some.inj same).symm⟩, fun same => by rw [same.2]; rfl⟩
  next none => simp [none]

theorem exchange_eq_self {pattern : Pattern} (none : pattern.groups.any (·.favours a b) = false) :
    pattern.exchange a b = pattern := by
  have unchanged : ∀ group ∈ pattern.groups, group.mirror a b = group := by
    intro group member
    rw [Group.mirror, if_neg (List.any_eq_false.mp none group member)]
  rw [exchange, List.map_congr_left unchanged, List.map_id']

namespace Renamed

variable {pattern image : Pattern} (renamed : Pattern.Renamed σ pattern image)

include renamed

theorem merge (fixA : σ a = a) (fixB : σ b = b) :
    Pattern.Renamed σ (pattern.merge a b) (image.merge a b) where
  inverted := renamed.inverted
  groups := by
    have fixed : ∀ mod, σ mod ∈ [a, b] ↔ mod ∈ [a, b] := by
      simp [apply_eq_fixed_iff fixA, apply_eq_fixed_iff fixB]
    have demanding := renamed.groups.filter fun group image same => same.demands_eq fixA fixB
    exact (renamed.groups.map fun _ _ same => same.merge fixA fixB).append
      (demanding.map fun _ _ _ => Group.renamed_ofMods fixed .exclusive)

theorem exchange (fixA : σ a = a) (fixB : σ b = b) :
    Pattern.Renamed σ (pattern.exchange a b) (image.exchange a b) where
  inverted := renamed.inverted
  groups := renamed.groups.map fun _ _ same => same.mirror fixA fixB

theorem isConstrained_eq : image.isConstrained = pattern.isConstrained := by
  rw [Bool.eq_iff_iff, isConstrained_iff, isConstrained_iff]
  exact renamed.groups.exists_iff fun _ _ _ same => by rw [same.kind]

theorem permit {legacy : Mod} (fix : σ legacy = legacy) :
    Pattern.Renamed σ (pattern.permit legacy) (image.permit legacy) := by
  have fixed : ∀ mod, σ mod ∈ [legacy] ↔ mod ∈ [legacy] := by simp [apply_eq_fixed_iff fix]
  have added := Group.renamed_ofMods fixed .optional
  unfold Pattern.permit
  rw [renamed.isConstrained_eq]
  split
  · exact ⟨renamed.inverted, renamed.groups.append (.singleton added)⟩
  · exact renamed

end Renamed

end Pattern

namespace Filter

/-- Treating two modifiers as synonyms makes two patterns of each one: it is merged, and the other
way round. Where the merged pattern favours neither modifier, both are the same. -/
theorem mem_interchange_iff {filter : Filter} (different : a ≠ b) {pattern : Pattern} :
    pattern ∈ (filter.interchange a b).patterns ↔
      ∃ origin ∈ filter.patterns,
        pattern = origin.merge a b ∨ pattern = (origin.merge a b).exchange a b := by
  rw [interchange, if_neg different]
  simp only [List.mem_append, List.mem_map, List.mem_filterMap]
  constructor
  · rintro (⟨origin, member, rfl⟩ | ⟨_, ⟨origin, member, rfl⟩, found⟩)
    · exact ⟨origin, member, .inl rfl⟩
    · exact ⟨origin, member, .inr (Pattern.mem_counterpart?_iff.mp found).2⟩
  · rintro ⟨origin, member, rfl | rfl⟩
    · exact .inl ⟨origin, member, rfl⟩
    · cases favoured : (origin.merge a b).groups.any (·.favours a b) with
      | true =>
        exact .inr ⟨_, ⟨origin, member, rfl⟩, Pattern.mem_counterpart?_iff.mpr ⟨favoured, rfl⟩⟩
      | false =>
        rw [Pattern.exchange_eq_self favoured]
        exact .inl ⟨origin, member, rfl⟩

@[simp] theorem inverted_interchange (filter : Filter) (a b : Mod) :
    (filter.interchange a b).inverted = filter.inverted := by
  unfold interchange
  split <;> rfl

/-- To find partners after two modifiers were made synonyms, it is enough that merging and
exchanging keep partners. -/
theorem exists_partner_interchange {R : Pattern → Pattern → Prop} {filter image : Filter}
    (different : a ≠ b)
    (partner : ∀ pattern ∈ filter.patterns, ∃ other ∈ image.patterns, R pattern other)
    (merge : ∀ pattern other, R pattern other → R (pattern.merge a b) (other.merge a b))
    (exchange : ∀ pattern other, R pattern other →
      R ((pattern.merge a b).exchange a b) ((other.merge a b).exchange a b)) :
    ∀ pattern ∈ (filter.interchange a b).patterns,
      ∃ other ∈ (image.interchange a b).patterns, R pattern other := by
  intro pattern member
  obtain ⟨origin, inPatterns, made⟩ := (mem_interchange_iff different).mp member
  obtain ⟨source, inSources, related⟩ := partner origin inPatterns
  rcases made with rfl | rfl
  · exact ⟨_, (mem_interchange_iff different).mpr ⟨source, inSources, .inl rfl⟩,
      merge _ _ related⟩
  · exact ⟨_, (mem_interchange_iff different).mpr ⟨source, inSources, .inr rfl⟩,
      exchange _ _ related⟩

/-- What merging and exchanging keep of related patterns stays related. -/
theorem matched_interchange {R : Pattern → Pattern → Prop} {filter image : Filter}
    (matched : Matched R filter.patterns image.patterns)
    (merge : ∀ pattern other, R pattern other → R (pattern.merge a b) (other.merge a b))
    (exchange : ∀ pattern other, R pattern other →
      R ((pattern.merge a b).exchange a b) ((other.merge a b).exchange a b)) :
    Matched R (filter.interchange a b).patterns (image.interchange a b).patterns := by
  by_cases same : a = b
  · rwa [interchange, interchange, if_pos same, if_pos same]
  · exact ⟨exists_partner_interchange same matched.left merge exchange,
      exists_partner_interchange same matched.right (fun _ _ => merge _ _)
        fun _ _ => exchange _ _⟩

/-- What merging and exchanging keep of every pattern holds of all patterns of the filter. -/
theorem forall_mem_interchange {P : Pattern → Prop} {filter : Filter}
    (all : ∀ pattern ∈ filter.patterns, P pattern)
    (merge : a ≠ b → ∀ pattern, P pattern → P (pattern.merge a b))
    (exchange : a ≠ b → ∀ pattern, P pattern → P ((pattern.merge a b).exchange a b)) :
    ∀ pattern ∈ (filter.interchange a b).patterns, P pattern := by
  intro pattern member
  by_cases same : a = b
  · rw [interchange, if_pos same] at member
    exact all pattern member
  · obtain ⟨origin, inPatterns, rfl | rfl⟩ := (mem_interchange_iff same).mp member
    · exact merge same origin (all origin inPatterns)
    · exact exchange same origin (all origin inPatterns)

/-- A renaming that fixes two modifiers can be done before or after they are made synonyms. -/
theorem Renamed.interchange {filter image : Filter} (renamed : Filter.Renamed σ filter image)
    (fixA : σ a = a) (fixB : σ b = b) :
    Filter.Renamed σ (filter.interchange a b) (image.interchange a b) where
  inverted := by simp [renamed.inverted]
  patterns := matched_interchange renamed.patterns (fun _ _ same => same.merge fixA fixB)
    fun _ _ same => (same.merge fixA fixB).exchange fixA fixB

end Filter

namespace Group

theorem swap_apply_mem_iff {mods : List Mod} (both : a ∈ mods ↔ b ∈ mods) (mod : Mod) :
    Equiv.swap a b mod ∈ mods ↔ mod ∈ mods := by
  by_cases first : mod = a
  · rw [first, Equiv.swap_apply_left, both]
  by_cases second : mod = b
  · rw [second, Equiv.swap_apply_right, both]
  · rw [Equiv.swap_apply_of_ne_of_ne first second]

/-- Exchanging two modifiers leaves a group as it is that lists both or neither. -/
theorem renamed_swap_self {group : Group} (both : a ∈ group.mods ↔ b ∈ group.mods) :
    group.Renamed (Equiv.swap a b) group :=
  ⟨rfl, swap_apply_mem_iff both⟩

/-- If a group lists just the first of two modifiers, a swap is their exchange. -/
theorem mem_swap_iff {group : Group} (present : a ∈ group.mods) (absent : b ∉ group.mods)
    (mod : Mod) :
    Equiv.swap a b mod ∈ (group.swap a b).mods ↔ mod ∈ group.mods := by
  have different : a ≠ b := fun same => absent (same ▸ present)
  rw [mem_swap]
  by_cases first : mod = a
  · simp [first, present]
  by_cases second : mod = b
  · simp [second, absent, different]
  · simp [Equiv.swap_apply_of_ne_of_ne first second, first, second]

/-- To exchange two modifiers in a group that favours one of them is to rename it. -/
theorem renamed_exchange {group : Group} (favours : group.favours a b = true) :
    group.Renamed (Equiv.swap a b) (group.exchange a b) where
  kind := group.kind_exchange a b
  mods mod := by
    simp only [Group.favours, Bool.and_eq_true, Bool.xor_iff_ne, ne_eq, decide_eq_decide] at favours
    unfold exchange
    by_cases present : a ∈ group.mods
    · have absent : b ∉ group.mods := fun other => favours.2 (iff_of_true present other)
      rw [if_pos present, mem_swap_iff present absent]
    · have other : b ∈ group.mods := by
        by_contra absent
        exact favours.2 (iff_of_false present absent)
      rw [if_neg present, Equiv.swap_comm, mem_swap_iff other present]

/-- Holds if a group tells the two modifiers apart by a choice at most. -/
def IsEven (group : Group) (a b : Mod) : Prop :=
  group.favours a b = false → (a ∈ group.mods ↔ b ∈ group.mods)

/-- After two modifiers are merged, no group tells them apart in what it demands or prohibits. -/
theorem isEven_merge (group : Group) (a b : Mod) : (group.merge a b).IsEven a b := by
  unfold merge
  split
  · intro _
    simp
  next notDemanded =>
    split
    · intro _
      simp
    next notProhibited =>
      intro neither
      simp only [demands, favours, mentions] at notDemanded notProhibited neither
      cases kind : group.kind <;> simp_all

end Group

namespace Pattern

/-- A merged pattern consists of the merged groups and, if one of them demanded one of the two
modifiers, of the choice between them. -/
theorem mem_merge {pattern : Pattern} {group : Group} :
    group ∈ (pattern.merge a b).groups ↔
      (∃ origin ∈ pattern.groups, origin.merge a b = group) ∨
        (∃ origin ∈ pattern.groups, origin.demands a b = true) ∧
          group = Group.ofMods .exclusive [a, b] := by
  refine List.mem_append.trans (or_congr List.mem_map ?_)
  rw [List.mem_map]
  constructor
  · rintro ⟨origin, demanding, rfl⟩
    exact ⟨⟨origin, List.mem_filter.mp demanding⟩, rfl⟩
  · rintro ⟨⟨origin, demanding⟩, rfl⟩
    exact ⟨origin, List.mem_filter.mpr demanding, rfl⟩

theorem merge_mem_merge {pattern : Pattern} {group : Group} (member : group ∈ pattern.groups) :
    group.merge a b ∈ (pattern.merge a b).groups :=
  mem_merge.mpr (.inl ⟨group, member, rfl⟩)

/-- A group that demands one of the two modifiers leaves a choice behind. -/
theorem choice_mem_merge {pattern : Pattern} {group : Group} (member : group ∈ pattern.groups)
    (demands : group.demands a b = true) :
    Group.ofMods .exclusive [a, b] ∈ (pattern.merge a b).groups :=
  mem_merge.mpr (.inr ⟨⟨group, member, demands⟩, rfl⟩)

theorem isEven_of_mem_merge {pattern : Pattern} {group : Group}
    (member : group ∈ (pattern.merge a b).groups) : group.IsEven a b := by
  rcases mem_merge.mp member with ⟨origin, _, rfl⟩ | ⟨_, rfl⟩
  · exact origin.isEven_merge a b
  · intro _
    simp

theorem renamed_exchange {pattern : Pattern} (even : ∀ group ∈ pattern.groups, group.IsEven a b) :
    pattern.Renamed (Equiv.swap a b) (pattern.exchange a b) := by
  have same : ∀ group ∈ pattern.groups, group.Renamed (Equiv.swap a b) (group.mirror a b) := by
    intro group member
    unfold Group.mirror
    split
    next favours => exact Group.renamed_exchange favours
    next neither => exact Group.renamed_swap_self (even group member (by simpa using neither))
  refine ⟨rfl, ?_, ?_⟩
  · exact fun group member => ⟨_, List.mem_map_of_mem member, same group member⟩
  · intro image member
    obtain ⟨group, inGroups, rfl⟩ := List.mem_map.mp member
    exact ⟨group, inGroups, same group inGroups⟩

end Pattern

namespace Filter

/-- Once two modifiers are synonyms, every pattern has a counterpart with the two exchanged. -/
theorem renamed_interchange (filter : Filter) {a b : Mod} (different : a ≠ b) :
    (filter.interchange a b).Renamed (Equiv.swap a b) (filter.interchange a b) := by
  have partner : ∀ pattern ∈ (filter.interchange a b).patterns,
      ∃ image ∈ (filter.interchange a b).patterns, pattern.Renamed (Equiv.swap a b) image := by
    intro pattern member
    obtain ⟨origin, inPatterns, same⟩ := (mem_interchange_iff different).mp member
    have renamed :
        (origin.merge a b).Renamed (Equiv.swap a b) ((origin.merge a b).exchange a b) :=
      Pattern.renamed_exchange fun _ inGroups => Pattern.isEven_of_mem_merge inGroups
    rcases same with rfl | rfl
    · exact ⟨_, (mem_interchange_iff different).mpr ⟨origin, inPatterns, .inr rfl⟩, renamed⟩
    · refine ⟨_, (mem_interchange_iff different).mpr ⟨origin, inPatterns, .inl rfl⟩, ?_⟩
      rw [← Equiv.symm_swap]
      exact renamed.symm
  refine ⟨rfl, partner, fun image member => ?_⟩
  obtain ⟨pattern, inPatterns, renamed⟩ := partner image member
  refine ⟨pattern, inPatterns, ?_⟩
  rw [← Equiv.symm_swap]
  exact renamed.symm

/-- The rule for the legacy modifier keeps filters alike, provided that it takes neither or both of
them for `+NM`. -/
theorem Renamed.allowLegacy {filter image : Filter} {legacy : Mod} (fix : σ legacy = legacy)
    (noModOnly : image.isNoModOnly = filter.isNoModOnly) (renamed : filter.Renamed σ image) :
    (filter.allowLegacy legacy).Renamed σ (image.allowLegacy legacy) := by
  unfold Filter.allowLegacy
  rw [noModOnly]
  split
  · have fixed : ∀ mod, σ mod ∈ [legacy] ↔ mod ∈ [legacy] := by simp [apply_eq_fixed_iff fix]
    have alternative := Group.renamed_ofMods fixed .required
    exact ⟨renamed.inverted, renamed.patterns.append (.singleton ⟨rfl, .singleton alternative⟩)⟩
  · exact ⟨renamed.inverted, renamed.patterns.map fun _ _ same => same.permit fix⟩

end Filter

namespace Rules

/-- What pairs of synonyms make of a filter, one pair after the other. -/
def interchangeAll (pairs : List (Mod × Mod)) (filter : Filter) : Filter :=
  pairs.foldl (fun filter (a, b) => filter.interchange a b) filter

theorem interchangeAll_cons (pair : Mod × Mod) (pairs : List (Mod × Mod)) (filter : Filter) :
    interchangeAll (pair :: pairs) filter =
      interchangeAll pairs (filter.interchange pair.1 pair.2) := rfl

/-- Rules make synonyms first and let in the legacy modifier last. -/
theorem apply_eq (rules : Rules) (filter : Filter) :
    rules.apply filter =
      if rules.allowLegacy then (interchangeAll rules.synonyms filter).allowLegacy rules.legacyMod
      else interchangeAll rules.synonyms filter := rfl

/-- Renamings that fix all modifiers of all pairs can be done before or after the pairs. -/
theorem renamed_interchangeAll {pairs : List (Mod × Mod)} {filter image : Filter}
    (fixed : ∀ pair ∈ pairs, σ pair.1 = pair.1 ∧ σ pair.2 = pair.2)
    (renamed : filter.Renamed σ image) :
    (interchangeAll pairs filter).Renamed σ (interchangeAll pairs image) := by
  induction pairs generalizing filter image with
  | nil => exact renamed
  | cons pair pairs ih =>
    obtain ⟨first, others⟩ := List.forall_mem_cons.mp fixed
    exact ih others (renamed.interchange first.1 first.2)

@[simp] theorem inverted_interchangeAll (pairs : List (Mod × Mod)) (filter : Filter) :
    (interchangeAll pairs filter).inverted = filter.inverted := by
  induction pairs generalizing filter with
  | nil => rfl
  | cons pair pairs ih =>
    rw [← filter.inverted_interchange pair.1 pair.2]
    exact ih (filter.interchange pair.1 pair.2)

/-- What every pair keeps of the patterns holds of all patterns in the end. -/
theorem forall_mem_interchangeAll {P : Pattern → Prop} {pairs : List (Mod × Mod)} {filter : Filter}
    (all : ∀ pattern ∈ filter.patterns, P pattern)
    (merge : ∀ pair ∈ pairs, pair.1 ≠ pair.2 → ∀ pattern, P pattern →
      P (pattern.merge pair.1 pair.2))
    (exchange : ∀ pair ∈ pairs, pair.1 ≠ pair.2 → ∀ pattern, P pattern →
      P (pattern.exchange pair.1 pair.2)) :
    ∀ pattern ∈ (interchangeAll pairs filter).patterns, P pattern := by
  induction pairs generalizing filter with
  | nil => exact all
  | cons pair pairs ih =>
    obtain ⟨mergeFirst, mergeOthers⟩ := List.forall_mem_cons.mp merge
    obtain ⟨exchangeFirst, exchangeOthers⟩ := List.forall_mem_cons.mp exchange
    refine ih (Filter.forall_mem_interchange all mergeFirst fun different pattern kept => ?_)
      mergeOthers exchangeOthers
    exact exchangeFirst different _ (mergeFirst different pattern kept)

end Rules

/-- Holds if two pairs of synonyms have no modifier in common. -/
def Rules.Disjoint (pair other : Mod × Mod) : Prop :=
  pair.1 ≠ other.1 ∧ pair.1 ≠ other.2 ∧ pair.2 ≠ other.1 ∧ pair.2 ≠ other.2

instance (pair other : Mod × Mod) : Decidable (Rules.Disjoint pair other) :=
  inferInstanceAs (Decidable (_ ∧ _ ∧ _ ∧ _))

theorem Rules.Disjoint.symm {pair other : Mod × Mod} (separate : Rules.Disjoint pair other) :
    Rules.Disjoint other pair :=
  ⟨separate.1.symm, separate.2.2.1.symm, separate.2.1.symm, separate.2.2.2.symm⟩

/-- Holds if no two rules concern the same modifier and no pair of synonyms names `NM`. -/
structure Rules.IsSeparate (rules : Rules) : Prop where
  pairs : rules.synonyms.Pairwise Rules.Disjoint
  real : ∀ pair ∈ rules.synonyms, pair.1 ≠ Mod.noMod ∧ pair.2 ≠ Mod.noMod
  legacy : rules.allowLegacy = true →
    ∀ pair ∈ rules.synonyms, pair.1 ≠ rules.legacyMod ∧ pair.2 ≠ rules.legacyMod

/-- Rules that are separate make a filter symmetric in each pair of synonyms. -/
theorem Rules.IsSeparate.renamed_apply {rules : Rules} (separate : rules.IsSeparate)
    (filter : Filter) {a b : Mod} (pair : (a, b) ∈ rules.synonyms) (different : a ≠ b) :
    (rules.apply filter).Renamed (Equiv.swap a b) (rules.apply filter) := by
  obtain ⟨before, after, whole⟩ := List.append_of_mem pair
  have later : ∀ other ∈ after, Rules.Disjoint (a, b) other := by
    have pairs := separate.pairs
    rw [whole, List.pairwise_append, List.pairwise_cons] at pairs
    exact pairs.2.1.1
  have fixed : ∀ other ∈ after, Equiv.swap a b other.1 = other.1 ∧
      Equiv.swap a b other.2 = other.2 := by
    intro other member
    obtain ⟨firstFirst, firstSecond, secondFirst, secondSecond⟩ := later other member
    exact ⟨Equiv.swap_apply_of_ne_of_ne firstFirst.symm secondFirst.symm,
      Equiv.swap_apply_of_ne_of_ne firstSecond.symm secondSecond.symm⟩
  have merged : (Rules.interchangeAll rules.synonyms filter).Renamed (Equiv.swap a b)
      (Rules.interchangeAll rules.synonyms filter) := by
    rw [whole, Rules.interchangeAll, List.foldl_append, List.foldl_cons]
    exact Rules.renamed_interchangeAll fixed (Filter.renamed_interchange _ different)
  rw [Rules.apply_eq]
  split
  next permitted =>
    obtain ⟨notFirst, notSecond⟩ := separate.legacy permitted _ pair
    exact merged.allowLegacy (Equiv.swap_apply_of_ne_of_ne notFirst.symm notSecond.symm) rfl
  next => exact merged

/-- Synonyms cannot be told apart. Under separate rules no filter judges a candidate differently if
the two modifiers of a pair are exchanged in it. -/
theorem synonyms_indistinguishable (rules : Rules) (separate : rules.IsSeparate) (filter : Filter)
    {a b : Mod} (pair : (a, b) ∈ rules.synonyms) (candidate : List Mod) :
    (rules.apply filter).accepts (candidate.map (Equiv.swap a b)) =
      (rules.apply filter).accepts candidate := by
  by_cases same : a = b
  · rw [same, Equiv.swap_self, Equiv.coe_refl, List.map_id]
  · obtain ⟨notFirst, notSecond⟩ := separate.real _ pair
    exact (separate.renamed_apply filter pair same).accepts_eq
      (Equiv.swap_apply_of_ne_of_ne notFirst.symm notSecond.symm) candidate

/-- In the base profile with the legacy modifier let in, `+HDDT[HTFL]` takes `HDNCHT` like
`HDNCDC`, though it names neither `NC` nor `DC`. -/
theorem synonyms_indistinguishable_in_base :
    let rules : Rules := { allowLegacy := true }
    let hidden : Mod := ⟨['H', 'D']⟩
    let halfTime : Mod := ⟨['H', 'T']⟩
    let daycore : Mod := ⟨['D', 'C']⟩
    let nightcore : Mod := ⟨['N', 'C']⟩
    let filter : Filter := ⟨[⟨[Group.ofMods .required [hidden, ⟨['D', 'T']⟩],
      Group.ofMods .exclusive [halfTime, ⟨['F', 'L']⟩]], false⟩], false⟩
    rules.IsSeparate ∧ (halfTime, daycore) ∈ rules.synonyms ∧
      (rules.apply filter).accepts
          ([hidden, nightcore, halfTime].map (Equiv.swap halfTime daycore)) =
        (rules.apply filter).accepts [hidden, nightcore, halfTime] ∧
      (rules.apply filter).accepts [hidden, nightcore, halfTime] = true := by
  intro rules hidden halfTime daycore nightcore filter
  have separate : rules.IsSeparate := ⟨by decide, by decide, by decide⟩
  have pair : (halfTime, daycore) ∈ rules.synonyms := by decide
  exact ⟨separate, pair, synonyms_indistinguishable rules separate filter pair _, by decide⟩

end ScoreSieve
