import ScoreSieve.Proofs.Vocabulary

namespace ScoreSieve

variable {a b legacy : Mod} {known : List Mod}

/-- The modifiers of a pattern as they are written, as often as they are. -/
def Pattern.listing (pattern : Pattern) : List Mod :=
  pattern.groups.flatMap Group.mods

/-- The modifiers of a filter as they are written, as often as they are. -/
def Filter.listing (filter : Filter) : List Mod :=
  filter.patterns.flatMap Pattern.listing

namespace Mod

/-- Holds of the modifiers that are not worth a warning. -/
def IsKnown (known : List Mod) (mod : Mod) : Prop :=
  mod = noMod ∨ mod ∈ known

instance (known : List Mod) (mod : Mod) : Decidable (mod.IsKnown known) :=
  inferInstanceAs (Decidable (_ ∨ _))

end Mod

/-- The modifiers of a filter are those of its listing, each of them where it stands first. -/
theorem Filter.allMods_eq (filter : Filter) : filter.allMods = distinct filter.listing :=
  distinct_flatMap_distinct Pattern.listing filter.patterns

/-- What is unknown is found among the written modifiers before the repeated ones are dropped. -/
theorem Filter.unknownMods_eq (filter : Filter) (some : known ≠ []) :
    filter.unknownMods known = distinct (filter.listing.filter (¬ Mod.IsKnown known ·)) := by
  have isUnknown (mod : Mod) : (decide (mod ∉ known) && !mod.isNoMod) =
      decide (¬ Mod.IsKnown known mod) := by
    rw [Bool.eq_iff_iff]
    simp only [Mod.IsKnown, Mod.isNoMod, Bool.and_eq_true, decide_eq_true_eq, Bool.not_eq_true',
      decide_eq_false_iff_not, not_or]
    exact and_comm
  rw [unknownMods, if_neg (by simpa using some), applied, List.filter_filter, allMods_eq,
    ← filter_distinct]
  simp only [isUnknown]

section Listing

variable {p : Mod → Bool}

namespace Group

theorem filter_mods_add {mod : Mod} (idle : p mod = false) (group : Group) :
    (group.add mod).mods.filter p = group.mods.filter p := by
  have nothing : ([mod].filter (· ∉ group.mods)).filter p = [] := by
    refine List.filter_eq_nil_iff.mpr fun other member => ?_
    obtain rfl := List.mem_singleton.mp (List.mem_filter.mp member).1
    simp [idle]
  rw [mods_add, List.filter_append, nothing, List.append_nil]

/-- Merging moves nothing but the two modifiers. -/
theorem filter_mods_merge (idleA : p a = false) (idleB : p b = false) (group : Group) :
    (group.merge a b).mods.filter p = group.mods.filter p := by
  unfold merge
  split
  · rw [without, List.filter_filter]
    refine List.filter_congr fun mod _ => ?_
    cases passes : p mod with
    | false => rfl
    | true =>
      have notA : mod ≠ a := by
        rintro rfl
        simp [passes] at idleA
      have notB : mod ≠ b := by
        rintro rfl
        simp [passes] at idleB
      simp [notA, notB]
  split
  · rw [filter_mods_add idleB, filter_mods_add idleA]
  · rfl

end Group

namespace Pattern

/-- Merging two modifiers keeps the listing of all others, their order and repetitions included. -/
theorem filter_listing_merge (idleA : p a = false) (idleB : p b = false) (pattern : Pattern) :
    (pattern.merge a b).listing.filter p = pattern.listing.filter p := by
  have choice : ((pattern.groups.filter (·.demands a b)).flatMap
      fun _ => (Group.ofMods .exclusive [a, b]).mods).filter p = [] := by
    refine List.filter_eq_nil_iff.mpr fun mod member => ?_
    obtain ⟨_, _, listed⟩ := List.mem_flatMap.mp member
    rcases List.mem_pair.mp (Group.mem_ofMods.mp listed) with rfl | rfl
    · simp [idleA]
    · simp [idleB]
  simp only [listing, merge, List.flatMap_append, List.flatMap_map, List.filter_append, choice,
    List.append_nil, List.filter_flatMap, Group.filter_mods_merge idleA idleB]

theorem filter_listing_permit (idle : p legacy = false) (pattern : Pattern) :
    (pattern.permit legacy).listing.filter p = pattern.listing.filter p := by
  have nothing : (Group.ofMods .optional [legacy]).mods.filter p = [] := by
    have single : (Group.ofMods .optional [legacy]).mods = [legacy] := rfl
    simp [single, idle]
  unfold permit
  split
  · simp only [listing, List.flatMap_append, List.flatMap_singleton, List.filter_append, nothing,
      List.append_nil]
  · rfl

end Pattern

namespace Filter

/-- The mirrors that a pair of synonyms adds come last and name what is named before, apart from the
two modifiers. -/
theorem distinct_filter_listing_interchange (idleA : p a = false) (idleB : p b = false)
    (filter : Filter) : distinct ((filter.interchange a b).listing.filter p) =
      distinct (filter.listing.filter p) := by
  by_cases same : a = b
  · rw [interchange, if_pos same]
  have merged : ((filter.patterns.map (·.merge a b)).flatMap Pattern.listing).filter p =
      filter.listing.filter p := by
    simp only [listing, List.flatMap_map, List.filter_flatMap,
      Pattern.filter_listing_merge idleA idleB]
  have listed : (filter.interchange a b).listing =
      (filter.patterns.map (·.merge a b)).flatMap Pattern.listing ++
        ((filter.patterns.map (·.merge a b)).filterMap (·.counterpart? a b)).flatMap
          Pattern.listing := by
    rw [listing, interchange, if_neg same, List.flatMap_append]
  rw [listed, List.filter_append, distinct_append_of_subset, merged]
  intro mod member
  obtain ⟨inMirrors, passes⟩ := List.mem_filter.mp member
  obtain ⟨mirror, made, inMirror⟩ := List.mem_flatMap.mp inMirrors
  obtain ⟨pattern, inMerged, found⟩ := List.mem_filterMap.mp made
  obtain ⟨origin, _, rfl⟩ := List.mem_map.mp inMerged
  rw [(Pattern.mem_counterpart?_iff.mp found).2] at inMirror
  have fixed : Equiv.swap a b mod = mod := by
    refine Equiv.swap_apply_of_ne_of_ne ?_ ?_ <;> rintro rfl <;> simp_all
  have inOrigin : mod ∈ (origin.merge a b).allMods := by
    rw [← Pattern.mem_allMods_exchange_merge, fixed]
    exact mem_distinct.mpr inMirror
  exact List.mem_filter.mpr
    ⟨List.mem_flatMap.mpr ⟨_, inMerged, mem_distinct.mp inOrigin⟩, passes⟩

theorem filter_listing_allowLegacy (idle : p legacy = false) (filter : Filter) :
    (filter.allowLegacy legacy).listing.filter p = filter.listing.filter p := by
  have nothing : (Pattern.listing ⟨[Group.ofMods .required [legacy]], false⟩).filter p = [] := by
    have single : Pattern.listing ⟨[Group.ofMods .required [legacy]], false⟩ = [legacy] := rfl
    simp [single, idle]
  unfold allowLegacy
  split
  · simp only [listing, List.flatMap_append, List.flatMap_singleton, List.filter_append, nothing,
      List.append_nil]
  · simp only [listing, List.flatMap_map, List.filter_flatMap, Pattern.filter_listing_permit idle]

end Filter

/-- Rules that are about other modifiers leave alone the order in which some are named first. -/
theorem Rules.distinct_filter_listing_interchangeAll {pairs : List (Mod × Mod)}
    (idle : ∀ pair ∈ pairs, p pair.1 = false ∧ p pair.2 = false) (filter : Filter) :
    distinct ((interchangeAll pairs filter).listing.filter p) =
      distinct (filter.listing.filter p) := by
  induction pairs generalizing filter with
  | nil => rfl
  | cons pair pairs ih =>
    obtain ⟨first, others⟩ := List.forall_mem_cons.mp idle
    rw [interchangeAll_cons, ih others,
      Filter.distinct_filter_listing_interchange first.1 first.2]

end Listing

/-- Holds if the rules in force name known modifiers only. -/
structure Rules.AreKnown (rules : Rules) (known : List Mod) : Prop where
  pairs : ∀ pair ∈ rules.synonyms, pair.1.IsKnown known ∧ pair.2.IsKnown known
  legacy : rules.allowLegacy = true → rules.legacyMod.IsKnown known

/-- Rules about known modifiers leave the report of unknown ones as it is. -/
theorem Rules.AreKnown.unknownMods_apply {rules : Rules} (covered : rules.AreKnown known)
    (some : known ≠ []) (filter : Filter) :
    (rules.apply filter).unknownMods known = filter.unknownMods known := by
  have idle {mod : Mod} (isKnown : mod.IsKnown known) : decide (¬ mod.IsKnown known) = false := by
    simpa using isKnown
  have merged : distinct ((interchangeAll rules.synonyms filter).listing.filter
      (¬ Mod.IsKnown known ·)) = distinct (filter.listing.filter (¬ Mod.IsKnown known ·)) :=
    distinct_filter_listing_interchangeAll
      (fun pair member => (covered.pairs pair member).imp idle idle) filter
  rw [Filter.unknownMods_eq _ some, Filter.unknownMods_eq _ some, apply_eq, ← merged]
  split
  next permitted => rw [Filter.filter_listing_allowLegacy (idle (covered.legacy permitted))]
  next => rfl

/-- Unknown are the listed modifiers that the profile does not name, apart from `NM`. -/
theorem Filter.mem_unknownMods_iff {filter : Filter} (some : known ≠ []) {mod : Mod} :
    mod ∈ filter.unknownMods known ↔
      mod ∈ filter.listing ∧ mod ≠ Mod.noMod ∧ mod ∉ known := by
  rw [unknownMods_eq filter some, mem_distinct, List.mem_filter, decide_eq_true_eq, Mod.IsKnown,
    not_or]

/-- Unknown modifiers are reported in the order in which they were first written. -/
theorem Filter.pairwise_unknownMods (filter : Filter) (some : known ≠ []) :
    (filter.unknownMods known).Pairwise fun mod later =>
      filter.listing.idxOf mod < filter.listing.idxOf later := by
  rw [unknownMods_eq filter some, ← filter_distinct]
  exact (pairwise_idxOf_distinct filter.listing).filter _

/-- Rules about known modifiers neither raise nor hide a warning. What is reported of a filter after
the rules is what is reported of it before: the modifiers in it, apart from `NM`, that are not
known, each once and in the order of their first places. -/
theorem rules_keep_unknownMods {rules : Rules} {known : List Mod} (some : known ≠ [])
    (covered : rules.AreKnown known) (filter : Filter) :
    (rules.apply filter).unknownMods known = filter.unknownMods known ∧
      (∀ mod, mod ∈ filter.unknownMods known ↔
        mod ∈ filter.listing ∧ mod ≠ Mod.noMod ∧ mod ∉ known) ∧
      (filter.unknownMods known).Pairwise fun mod later =>
        filter.listing.idxOf mod < filter.listing.idxOf later :=
  ⟨covered.unknownMods_apply some filter, fun _ => Filter.mem_unknownMods_iff some,
    filter.pairwise_unknownMods some⟩

/-- With `DT` and `NC` for synonyms, `NM` and `HD` for others and `CL` let in, the filter
`+HDXX(NM),^DTZZ{XXNC}[DTYY]` grows to four patterns, and `XX`, `ZZ` and `YY` stay unknown. -/
theorem rules_keep_unknownMods_beside_noMod :
    let hidden : Mod := ⟨['H', 'D']⟩
    let doubleTime : Mod := ⟨['D', 'T']⟩
    let nightcore : Mod := ⟨['N', 'C']⟩
    let x : Mod := ⟨['X', 'X']⟩
    let y : Mod := ⟨['Y', 'Y']⟩
    let z : Mod := ⟨['Z', 'Z']⟩
    let known := [hidden, doubleTime, nightcore, Mod.classic]
    let rules : Rules :=
      { allowLegacy := true, synonyms := [(doubleTime, nightcore), (Mod.noMod, hidden)] }
    let filter : Filter :=
      ⟨[⟨[Group.ofMods .required [hidden, x], Group.ofMods .optional [Mod.noMod]], false⟩,
        ⟨[Group.ofMods .required [doubleTime, z], Group.ofMods .prohibited [x, nightcore],
          Group.ofMods .exclusive [doubleTime, y]], true⟩], false⟩
    known ≠ [] ∧ rules.AreKnown known ∧ (rules.apply filter).patterns.length = 4 ∧
      filter.unknownMods known = [x, z, y] ∧
      (rules.apply filter).unknownMods known = filter.unknownMods known ∧
      (∀ mod, mod ∈ filter.unknownMods known ↔
        mod ∈ filter.listing ∧ mod ≠ Mod.noMod ∧ mod ∉ known) ∧
      (filter.unknownMods known).Pairwise fun mod later =>
        filter.listing.idxOf mod < filter.listing.idxOf later := by
  intro hidden doubleTime nightcore x y z known rules filter
  have some : known ≠ [] := by decide
  have covered : rules.AreKnown known := ⟨by decide, by decide⟩
  exact ⟨some, covered, by decide, by decide, rules_keep_unknownMods some covered filter⟩

end ScoreSieve
