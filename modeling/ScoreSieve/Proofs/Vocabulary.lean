import ScoreSieve.Proofs.OnlyNoMod
import ScoreSieve.Proofs.Repeating

namespace ScoreSieve

variable {σ : Equiv.Perm Mod} {a b : Mod}

/-- Holds if a choice of the pattern names one of `a` and `b` but not the other. -/
def Pattern.favours (pattern : Pattern) (a b : Mod) : Bool :=
  pattern.groups.any (·.favours a b)

/-- Holds if the second group is the first one, but with `a` and `b` in the place of each other
where it is a choice that names only one of them. -/
structure Group.IsMirror (a b : Mod) (group image : Group) : Prop where
  kind : image.kind = group.kind
  mods : image.mods =
    if group.favours a b then group.mods.map (Equiv.swap a b) else group.mods

/-- Holds if the groups of the second pattern are the mirrors of those of the first one. -/
structure Pattern.IsMirror (a b : Mod) (pattern image : Pattern) : Prop where
  inverted : image.inverted = pattern.inverted
  groups : List.Forall₂ (Group.IsMirror a b) pattern.groups image.groups

/-- The mirror of a group lists its modifiers in their places, with the two exchanged if the group
favours one of them. -/
theorem Group.isMirror_mirror (group : Group) (a b : Mod) :
    Group.IsMirror a b group (group.mirror a b) where
  kind := group.kind_mirror a b
  mods := by
    rw [mods_mirror, turn]
    split
    · rfl
    · exact List.map_id _

theorem Pattern.isMirror_exchange (pattern : Pattern) (a b : Mod) :
    Pattern.IsMirror a b pattern (pattern.exchange a b) where
  inverted := rfl
  groups := List.forall₂_map_right_iff.mpr
    (List.forall₂_same.mpr fun group _ => group.isMirror_mirror a b)

/-- The counterparts of patterns follow in the order of the patterns that have one. -/
theorem filterMap_counterpart? (patterns : List Pattern) (a b : Mod) :
    patterns.filterMap (·.counterpart? a b) =
      (patterns.filter (·.favours a b)).map (·.exchange a b) := by
  induction patterns with
  | nil => rfl
  | cons pattern rest ih =>
    have choose : pattern.counterpart? a b =
        if pattern.favours a b then some (pattern.exchange a b) else none := rfl
    cases favours : pattern.favours a b with
    | true => simp [choose, favours, ih]
    | false => simp [choose, favours, ih]

theorem Pattern.Renamed.mem_allMods_iff {pattern image : Pattern}
    (renamed : Pattern.Renamed σ pattern image) {mod : Mod} :
    σ mod ∈ image.allMods ↔ mod ∈ pattern.allMods := by
  rw [mem_allMods, mem_allMods]
  exact renamed.groups.exists_iff fun _ _ _ same => same.mods mod

theorem Filter.Renamed.mem_allMods_iff {filter image : Filter}
    (renamed : Filter.Renamed σ filter image) {mod : Mod} :
    σ mod ∈ image.allMods ↔ mod ∈ filter.allMods := by
  rw [mem_allMods, mem_allMods]
  exact renamed.patterns.exists_iff fun _ _ _ same => same.mem_allMods_iff

namespace Group

theorem mem_merge_of_ne {group : Group} {mod : Mod} (notA : mod ≠ a) (notB : mod ≠ b) :
    mod ∈ (group.merge a b).mods ↔ mod ∈ group.mods := by
  cases kind : group.kind with
  | required => simp [mem_merge_required kind, notA, notB]
  | prohibited => simp [mem_merge_prohibited kind, notA, notB]
  | optional => rw [merge_of_choice (.inl kind)]
  | exclusive => rw [merge_of_choice (.inr kind)]

/-- Merged, a group names one of the two modifiers if it named one of them and does not require
it. -/
theorem mentions_merge (group : Group) (a b : Mod) :
    (group.merge a b).mentions a b = (group.mentions a b && !group.demands a b) := by
  cases kind : group.kind with
  | required =>
    have gone : (group.merge a b).mentions a b = false := by
      simp [mentions, mem_merge_required kind]
    have demanded : group.demands a b = group.mentions a b := by simp [demands, kind]
    rw [gone, demanded, Bool.and_not_self]
  | prohibited =>
    have kept : (group.merge a b).mentions a b = group.mentions a b := by
      rw [Bool.eq_iff_iff]
      simp only [mentions, mem_merge_prohibited kind, Bool.or_eq_true, decide_eq_true_eq]
      tauto
    simp [kept, demands, kind]
  | optional => simp [demands, merge_of_choice (.inl kind), kind]
  | exclusive => simp [demands, merge_of_choice (.inr kind), kind]

end Group

namespace Pattern

variable {pattern : Pattern}

theorem mem_allMods_merge_of_ne {mod : Mod} (notA : mod ≠ a) (notB : mod ≠ b) :
    mod ∈ (pattern.merge a b).allMods ↔ mod ∈ pattern.allMods := by
  rw [mem_allMods, mem_allMods]
  constructor
  · rintro ⟨group, member, listed⟩
    rcases mem_merge.mp member with ⟨origin, inGroups, rfl⟩ | ⟨_, rfl⟩
    · exact ⟨origin, inGroups, (Group.mem_merge_of_ne notA notB).mp listed⟩
    · simp [notA, notB] at listed
  · rintro ⟨group, member, listed⟩
    exact ⟨group.merge a b, merge_mem_merge member, (Group.mem_merge_of_ne notA notB).mpr listed⟩

theorem mentioned_iff :
    a ∈ pattern.allMods ∨ b ∈ pattern.allMods ↔
      ∃ group ∈ pattern.groups, group.mentions a b = true := by
  simp only [mem_allMods, Group.mentions, Bool.or_eq_true, decide_eq_true_eq, and_or_left,
    exists_or]

/-- A pattern that names one of the two modifiers still does when it is merged: where a demand for
them goes, a choice comes. -/
theorem mentioned_merge_iff :
    a ∈ (pattern.merge a b).allMods ∨ b ∈ (pattern.merge a b).allMods ↔
      a ∈ pattern.allMods ∨ b ∈ pattern.allMods := by
  rw [mentioned_iff, mentioned_iff]
  constructor
  · rintro ⟨group, member, mentions⟩
    rcases mem_merge.mp member with ⟨origin, inGroups, rfl⟩ | ⟨⟨origin, inGroups, demands⟩, rfl⟩
    · rw [Group.mentions_merge, Bool.and_eq_true] at mentions
      exact ⟨origin, inGroups, mentions.1⟩
    · exact ⟨origin, inGroups, (Bool.and_eq_true_iff.mp demands).2⟩
  · rintro ⟨group, member, mentions⟩
    cases demands : group.demands a b with
    | true => exact ⟨_, choice_mem_merge member demands, by simp [Group.mentions]⟩
    | false =>
      refine ⟨group.merge a b, merge_mem_merge member, ?_⟩
      rw [Group.mentions_merge, mentions, demands]
      rfl

/-- The exchange of a merged pattern renames it. -/
theorem mem_allMods_exchange_merge {mod : Mod} :
    Equiv.swap a b mod ∈ ((pattern.merge a b).exchange a b).allMods ↔
      mod ∈ (pattern.merge a b).allMods :=
  (renamed_exchange fun _ => isEven_of_mem_merge).mem_allMods_iff

end Pattern

namespace Filter

variable {filter : Filter}

/-- Making synonyms of two modifiers brings in no other one and loses none. -/
theorem mem_allMods_interchange_of_ne (different : a ≠ b) {mod : Mod} (notA : mod ≠ a)
    (notB : mod ≠ b) : mod ∈ (filter.interchange a b).allMods ↔ mod ∈ filter.allMods := by
  have fixed : Equiv.swap a b mod = mod := Equiv.swap_apply_of_ne_of_ne notA notB
  have exchanged (pattern : Pattern) : mod ∈ ((pattern.merge a b).exchange a b).allMods ↔
      mod ∈ (pattern.merge a b).allMods := by
    rw [← Pattern.mem_allMods_exchange_merge, fixed]
  simp only [mem_allMods, mem_interchange_iff different]
  constructor
  · rintro ⟨_, ⟨origin, member, rfl | rfl⟩, listed⟩
    · exact ⟨origin, member, (Pattern.mem_allMods_merge_of_ne notA notB).mp listed⟩
    · rw [exchanged] at listed
      exact ⟨origin, member, (Pattern.mem_allMods_merge_of_ne notA notB).mp listed⟩
  · rintro ⟨origin, member, listed⟩
    exact ⟨origin.merge a b, ⟨origin, member, .inl rfl⟩,
      (Pattern.mem_allMods_merge_of_ne notA notB).mpr listed⟩

/-- One of the two modifiers is mentioned afterwards exactly if one was before. -/
theorem mentioned_interchange_iff (different : a ≠ b) :
    a ∈ (filter.interchange a b).allMods ∨ b ∈ (filter.interchange a b).allMods ↔
      a ∈ filter.allMods ∨ b ∈ filter.allMods := by
  simp only [mem_allMods, ← exists_or, ← and_or_left]
  constructor
  · rintro ⟨pattern, member, mentioned⟩
    obtain ⟨origin, inPatterns, rfl | rfl⟩ := (mem_interchange_iff different).mp member
    · exact ⟨origin, inPatterns, Pattern.mentioned_merge_iff.mp mentioned⟩
    · refine ⟨origin, inPatterns, Pattern.mentioned_merge_iff.mp ?_⟩
      rwa [← Pattern.mem_allMods_exchange_merge, ← Pattern.mem_allMods_exchange_merge,
        Equiv.swap_apply_left, Equiv.swap_apply_right, or_comm]
  · rintro ⟨origin, inPatterns, mentioned⟩
    exact ⟨origin.merge a b, (mem_interchange_iff different).mpr ⟨origin, inPatterns, .inl rfl⟩,
      Pattern.mentioned_merge_iff.mpr mentioned⟩

/-- A pair of synonyms brings in the two modifiers where one of them is mentioned, and nothing else
comes in or is lost. -/
theorem mem_allMods_interchange_iff (different : a ≠ b) {mod : Mod} :
    mod ∈ (filter.interchange a b).allMods ↔
      mod ∈ filter.allMods ∨
        (a ∈ filter.allMods ∨ b ∈ filter.allMods) ∧ (mod = a ∨ mod = b) := by
  have symmetric : a ∈ (filter.interchange a b).allMods ↔ b ∈ (filter.interchange a b).allMods := by
    rw [← (filter.renamed_interchange different).mem_allMods_iff, Equiv.swap_apply_left]
  have mentioned := filter.mentioned_interchange_iff different
  by_cases first : mod = a
  · subst first
    tauto
  by_cases second : mod = b
  · subst second
    tauto
  rw [mem_allMods_interchange_of_ne different first second]
  simp [first, second]

/-- Synonyms that a filter does not mention leave it as it is. -/
theorem interchange_eq_self (notA : a ∉ filter.allMods) (notB : b ∉ filter.allMods) :
    filter.interchange a b = filter := by
  have absent {pattern : Pattern} (member : pattern ∈ filter.patterns) {group : Group}
      (inGroups : group ∈ pattern.groups) : a ∉ group.mods ∧ b ∉ group.mods := by
    have listed {mod : Mod} (inMods : mod ∈ group.mods) : mod ∈ filter.allMods :=
      mem_allMods.mpr ⟨pattern, member, Pattern.mem_allMods.mpr ⟨group, inGroups, inMods⟩⟩
    exact ⟨mt listed notA, mt listed notB⟩
  have merged : ∀ pattern ∈ filter.patterns, pattern.merge a b = pattern := by
    intro pattern member
    refine Pattern.IsMerged.merge_eq fun group inGroups => ?_
    exact ⟨fun _ => absent member inGroups, fun _ => iff_of_false (absent member inGroups).1
      (absent member inGroups).2⟩
  have unmirrored : filter.patterns.filterMap (·.counterpart? a b) = [] := by
    rw [filterMap_counterpart?, List.map_eq_nil_iff, List.filter_eq_nil_iff]
    intro pattern member favours
    obtain ⟨group, inGroups, favours⟩ := List.any_eq_true.mp favours
    simp [Group.favours, absent member inGroups] at favours
  unfold interchange
  split
  · rfl
  · simp only [List.map_congr_left merged, List.map_id', unmirrored, List.append_nil]

/-- What stays of a filter, and what comes in, when `a` and `b` become synonyms. -/
structure KeepsFrame (a b : Mod) (filter image : Filter) : Prop where
  inverted : image.inverted = filter.inverted
  count : filter.patterns.length ≤ image.patterns.length ∧
    image.patterns.length ≤ 2 * filter.patterns.length
  /-- Every pattern has a successor in its place, which is the pattern itself where there is nothing
  to merge. -/
  places : ∀ (place : Nat) (pattern : Pattern), filter.patterns[place]? = some pattern →
    ∃ successor : Pattern, image.patterns[place]? = some successor ∧
      successor.inverted = pattern.inverted ∧ (pattern.IsMerged a b → successor = pattern)
  /-- What follows are the mirrors of the successors that favour one modifier, in their order. -/
  mirrors : List.Forall₂ (Pattern.IsMirror a b)
    ((image.patterns.take filter.patterns.length).filter (·.favours a b))
    (image.patterns.drop filter.patterns.length)
  vocabulary : ∀ mod, mod ∈ image.allMods ↔
    mod ∈ filter.allMods ∨ (a ∈ filter.allMods ∨ b ∈ filter.allMods) ∧ (mod = a ∨ mod = b)
  unmentioned : a ∉ filter.allMods → b ∉ filter.allMods → image = filter

end Filter

/-- A pair of different synonyms keeps the frame of a filter: its inversion, its patterns in their
places, and its modifiers apart from the two. At most one mirror of each pattern comes behind, in
the order of the patterns, and each is inverted if the pattern is. -/
theorem interchange_keeps_frame (filter : Filter) {a b : Mod} (different : a ≠ b) :
    filter.KeepsFrame a b (filter.interchange a b) := by
  have patterns : (filter.interchange a b).patterns = filter.patterns.map (·.merge a b) ++
      ((filter.patterns.map (·.merge a b)).filter (·.favours a b)).map (·.exchange a b) := by
    rw [Filter.interchange, if_neg different, ← filterMap_counterpart?]
  have length : (filter.patterns.map (·.merge a b)).length = filter.patterns.length :=
    List.length_map _
  refine ⟨filter.inverted_interchange a b, ?_, ?_, ?_,
    fun _ => Filter.mem_allMods_interchange_iff different, Filter.interchange_eq_self⟩
  · have mirrored := List.length_filter_le (·.favours a b) (filter.patterns.map (·.merge a b))
    rw [length] at mirrored
    rw [patterns, List.length_append, length, List.length_map]
    omega
  · intro place pattern found
    refine ⟨pattern.merge a b, ?_, rfl, Pattern.IsMerged.merge_eq⟩
    obtain ⟨within, _⟩ := List.getElem?_eq_some_iff.mp found
    rw [patterns, List.getElem?_append_left (by rwa [length]), List.getElem?_map, found]
    rfl
  · rw [patterns, List.take_left' length, List.drop_left' length, List.forall₂_map_right_iff,
      List.forall₂_same]
    exact fun pattern _ => pattern.isMirror_exchange a b

/-- In `-^HDDT(EZ)NC,[NCFL]{DTNC},HR` only the first pattern changes, and the mirror that comes
behind is that of the second one. -/
theorem interchange_keeps_frame_of_three_patterns :
    let doubleTime : Mod := ⟨['D', 'T']⟩
    let nightcore : Mod := ⟨['N', 'C']⟩
    let filter : Filter :=
      ⟨[⟨[Group.ofMods .required [⟨['H', 'D']⟩, doubleTime], Group.ofMods .optional [⟨['E', 'Z']⟩],
          Group.ofMods .required [nightcore]], true⟩,
        ⟨[Group.ofMods .exclusive [nightcore, ⟨['F', 'L']⟩],
          Group.ofMods .prohibited [doubleTime, nightcore]], false⟩,
        ⟨[Group.ofMods .required [⟨['H', 'R']⟩]], false⟩], true⟩
    doubleTime ≠ nightcore ∧
      (filter.interchange doubleTime nightcore).text =
        "-^HD(EZ)[DTNC][DTNC],[NCFL]\x7bDTNC\x7d,HR,[DTFL]\x7bDTNC\x7d".toList ∧
      filter.KeepsFrame doubleTime nightcore (filter.interchange doubleTime nightcore) := by
  intro doubleTime nightcore filter
  have different : doubleTime ≠ nightcore := by decide
  exact ⟨different, by decide, interchange_keeps_frame filter different⟩

end ScoreSieve
