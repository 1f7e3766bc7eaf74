import Mathlib.Algebra.Group.End
import Mathlib.Data.Sym.Sym2
import ScoreSieve.Proofs.Merging
import ScoreSieve.Proofs.OnlyNoMod
import ScoreSieve.Proofs.Shape

namespace ScoreSieve

variable {a b c d : Mod}

namespace Group

/-- It does not matter which of the two modifiers of a pair is named first. -/
theorem alike_merge_swap (group : Group) (a b : Mod) :
    (group.merge a b).Alike (group.merge b a) where
  kind := by rw [kind_merge, kind_merge]
  mods mod := by
    rw [Equiv.refl_apply]
    cases kind : group.kind with
    | required =>
      rw [mem_merge_required kind, mem_merge_required kind]
      exact and_congr_right fun _ => and_comm
    | prohibited =>
      rw [mem_merge_prohibited kind, mem_merge_prohibited kind]
      exact or_congr_right (and_congr or_comm or_comm)
    | optional => rw [merge_of_choice (.inl kind), merge_of_choice (.inl kind)]
    | exclusive => rw [merge_of_choice (.inr kind), merge_of_choice (.inr kind)]

theorem demands_swap (group : Group) (a b : Mod) : group.demands a b = group.demands b a := by
  rw [demands, demands, mentions, mentions, Bool.or_comm]

theorem favours_swap (group : Group) (a b : Mod) : group.favours a b = group.favours b a := by
  rw [favours, favours, Bool.xor_comm]

theorem mirror_swap (group : Group) (a b : Mod) : group.mirror a b = group.mirror b a := by
  unfold mirror
  rw [favours_swap]
  split
  next favours =>
    simp only [Group.favours, Bool.and_eq_true, Bool.xor_iff_ne, ne_eq, decide_eq_decide] at favours
    unfold exchange
    by_cases first : a ∈ group.mods
    · have second : b ∉ group.mods := fun second => favours.2 (iff_of_true second first)
      rw [if_pos first, if_neg second]
    · have second : b ∈ group.mods := by
        by_contra second
        exact favours.2 (iff_of_false second first)
      rw [if_neg first, if_pos second]
  next => rfl

end Group

namespace Pattern

theorem alike_merge_swap (pattern : Pattern) (a b : Mod) :
    (pattern.merge a b).Alike (pattern.merge b a) where
  inverted := rfl
  groups := by
    have choice : (Group.ofMods .exclusive [a, b]).Alike (Group.ofMods .exclusive [b, a]) :=
      ⟨rfl, fun mod => by simp [or_comm]⟩
    have demanding : pattern.groups.filter (·.demands b a) =
        pattern.groups.filter (·.demands a b) :=
      List.filter_congr fun group _ => group.demands_swap b a
    rw [merge, merge, demanding]
    exact (Matched.map_same fun group _ => group.alike_merge_swap a b).append
      (.map_same fun _ _ => choice)

theorem exchange_swap (pattern : Pattern) (a b : Mod) :
    pattern.exchange a b = pattern.exchange b a := by
  rw [exchange, exchange, List.map_congr_left fun group _ => group.mirror_swap a b]

end Pattern

/-- It makes no difference which modifier of a pair comes first. -/
theorem Filter.alike_interchange_swap (filter : Filter) (a b : Mod) :
    (filter.interchange a b).Alike (filter.interchange b a) := by
  by_cases same : a = b
  · rw [same]
    exact alike_refl _
  have partner (a b : Mod) (different : a ≠ b) : ∀ pattern ∈ (filter.interchange a b).patterns,
      ∃ other ∈ (filter.interchange b a).patterns, pattern.Alike other := by
    intro pattern member
    obtain ⟨origin, inPatterns, made⟩ := (mem_interchange_iff different).mp member
    have merged := origin.alike_merge_swap a b
    have exchanged : ((origin.merge a b).exchange a b).Alike ((origin.merge b a).exchange b a) := by
      rw [Pattern.exchange_swap (origin.merge b a)]
      exact merged.exchange rfl rfl
    rcases made with rfl | rfl
    · exact ⟨_, (mem_interchange_iff different.symm).mpr ⟨origin, inPatterns, .inl rfl⟩, merged⟩
    · exact ⟨_, (mem_interchange_iff different.symm).mpr ⟨origin, inPatterns, .inr rfl⟩, exchanged⟩
  exact alike_of_partners (by simp) (partner a b same) (partner b a (Ne.symm same))

section Separate

variable (separate : Rules.Disjoint (a, b) (c, d))

namespace Group

/-- One pair changes the demands of a group and the other one its choices. -/
theorem merge_mirror (group : Group) (a b c d : Mod) :
    (group.mirror a b).merge c d = (group.merge c d).mirror a b := by
  cases kind : group.kind with
  | required | prohibited =>
    rw [mirror_of_demand (by simp [kind]), mirror_of_demand (by simp [kind])]
  | optional | exclusive =>
    rw [merge_of_choice (by simp [kind]), merge_of_choice (by simp [kind])]

theorem demands_mirror (group : Group) (a b c d : Mod) :
    (group.mirror a b).demands c d = group.demands c d := by
  cases kind : group.kind with
  | required => rw [mirror_of_demand (.inl kind)]
  | prohibited => rw [mirror_of_demand (.inr kind)]
  | optional | exclusive => simp [demands, kind]

include separate

theorem turn_apply_left (group : Group) : group.turn a b c = c := by
  unfold turn
  split
  · exact Equiv.swap_apply_of_ne_of_ne separate.1.symm separate.2.2.1.symm
  · rfl

theorem turn_apply_right (group : Group) : group.turn a b d = d := by
  unfold turn
  split
  · exact Equiv.swap_apply_of_ne_of_ne separate.2.1.symm separate.2.2.2.symm
  · rfl

/-- What an exchange does is not disturbed by an exchange of two other modifiers. -/
theorem turn_trans_comm (group : Group) :
    (group.turn a b).trans (group.turn c d) = (group.turn c d).trans (group.turn a b) := by
  have fixC := turn_apply_left separate group
  have fixD := turn_apply_right separate group
  generalize group.turn a b = σ at fixC fixD
  unfold turn
  split
  · have moved := Equiv.mul_swap_eq_swap_mul σ c d
    rw [fixC, fixD] at moved
    exact moved.symm
  · rfl

/-- Merging one pair changes no demand for the modifiers of a separate one. -/
theorem demands_merge (group : Group) : (group.merge a b).demands c d = group.demands c d := by
  obtain ⟨ac, ad, bc, bd⟩ := separate
  cases kind : group.kind with
  | required =>
    simp [demands, mentions, kind, mem_merge_required, ac.symm, ad.symm, bc.symm, bd.symm]
  | optional | prohibited | exclusive => simp [demands, kind]

/-- Two separate pairs are merged in a group in either order, with the same modifiers in the end. -/
theorem alike_merge_merge (group : Group) :
    ((group.merge a b).merge c d).Alike ((group.merge c d).merge a b) where
  kind := by simp
  mods mod := by
    obtain ⟨ac, ad, bc, bd⟩ := separate
    rw [Equiv.refl_apply]
    cases kind : group.kind with
    | required =>
      simp only [mem_merge_required, kind_merge, kind]
      exact and_right_comm
    | prohibited =>
      simp only [mem_merge_prohibited, kind_merge, kind, ac, ad, bc, bd, ac.symm, ad.symm, bc.symm,
        bd.symm, or_false, and_false]
      exact or_right_comm
    | optional => simp only [merge_of_choice, kind, true_or]
    | exclusive => simp only [merge_of_choice, kind, or_true]

theorem favours_mirror (group : Group) : (group.mirror a b).favours c d = group.favours c d :=
  (group.renamed_mirror a b).favours_eq (turn_apply_left separate group)
    (turn_apply_right separate group)

/-- Mirrors for two separate pairs commute up to the order of modifiers. -/
theorem alike_mirror_mirror (group : Group) :
    ((group.mirror a b).mirror c d).Alike ((group.mirror c d).mirror a b) := by
  have first : group.Renamed ((group.turn a b).trans (group.turn c d))
      ((group.mirror a b).mirror c d) := by
    have second := (group.mirror a b).renamed_mirror c d
    rw [turn, favours_mirror separate] at second
    exact (group.renamed_mirror a b).trans second
  have other : group.Renamed ((group.turn c d).trans (group.turn a b))
      ((group.mirror c d).mirror a b) := by
    have second := (group.mirror c d).renamed_mirror a b
    rw [turn, favours_mirror separate.symm] at second
    exact (group.renamed_mirror c d).trans second
  rw [turn_trans_comm separate] at first
  exact first.alike other

end Group

namespace Pattern

include separate

/-- An exchange may be done before other modifiers are merged, since it leaves alone the choice that
merging adds. -/
theorem merge_exchange (pattern : Pattern) :
    (pattern.exchange a b).merge c d = (pattern.merge c d).exchange a b := by
  have choice : (Group.ofMods .exclusive [c, d]).mirror a b = Group.ofMods .exclusive [c, d] := by
    obtain ⟨ac, ad, bc, bd⟩ := separate
    simp [Group.mirror, Group.favours, ac, ad, bc, bd]
  have changed : pattern.groups.map (fun group => (group.mirror a b).merge c d) =
      pattern.groups.map fun group => (group.merge c d).mirror a b :=
    List.map_congr_left fun group _ => group.merge_mirror a b c d
  have demanding : (pattern.groups.map (·.mirror a b)).filter (·.demands c d) =
      (pattern.groups.filter (·.demands c d)).map (·.mirror a b) := by
    rw [List.filter_map]
    exact congrArg _ (List.filter_congr fun group _ => group.demands_mirror a b c d)
  simp only [exchange, merge, List.map_append, List.map_map, Function.comp_def, choice, changed,
    demanding]

/-- Two merges change each group in turn and add the choices of either pair. -/
theorem groups_merge_merge (pattern : Pattern) :
    ((pattern.merge a b).merge c d).groups =
      pattern.groups.map (fun group => (group.merge a b).merge c d) ++
        ((pattern.groups.filter (·.demands a b)).map (fun _ => Group.ofMods .exclusive [a, b]) ++
          (pattern.groups.filter (·.demands c d)).map fun _ => Group.ofMods .exclusive [c, d]) := by
  have kept : (Group.ofMods .exclusive [a, b]).merge c d = Group.ofMods .exclusive [a, b] :=
    Group.merge_of_choice (.inr rfl)
  have idle : (Group.ofMods .exclusive [a, b]).demands c d = false := rfl
  have demanding : (pattern.groups.map (·.merge a b)).filter (·.demands c d) =
      (pattern.groups.filter (·.demands c d)).map (·.merge a b) := by
    rw [List.filter_map]
    exact congrArg _ (List.filter_congr fun group _ => group.demands_merge separate)
  simp [merge, List.filter_append, Function.comp_def, kept, idle, demanding]

/-- Two separate pairs are merged in a pattern in either order. The groups that this adds may change
places. -/
theorem alike_merge_merge (pattern : Pattern) :
    ((pattern.merge a b).merge c d).Alike ((pattern.merge c d).merge a b) where
  inverted := rfl
  groups := by
    rw [groups_merge_merge separate, groups_merge_merge separate.symm]
    refine (Matched.map_same fun group _ => group.alike_merge_merge separate).append ?_
    exact .of_mem_iff Group.renamed_refl fun group => by
      rw [List.mem_append, List.mem_append, or_comm]

/-- Counterparts for two separate pairs commute up to the order of modifiers. -/
theorem alike_exchange_exchange (pattern : Pattern) :
    ((pattern.exchange a b).exchange c d).Alike ((pattern.exchange c d).exchange a b) where
  inverted := rfl
  groups := by
    simp only [exchange, List.map_map]
    exact .map_same fun group _ => group.alike_mirror_mirror separate

end Pattern

namespace Filter

variable {filter : Filter}

include separate

/-- Two pairs make four patterns of each one. -/
theorem mem_interchange_interchange_iff (first : a ≠ b) (second : c ≠ d) {pattern : Pattern} :
    pattern ∈ ((filter.interchange a b).interchange c d).patterns ↔
      ∃ origin ∈ filter.patterns, ∃ merged, merged = (origin.merge a b).merge c d ∧
        (pattern = merged ∨ pattern = merged.exchange a b ∨ pattern = merged.exchange c d ∨
          pattern = (merged.exchange a b).exchange c d) := by
  rw [mem_interchange_iff second]
  constructor
  · rintro ⟨middle, inMiddle, made⟩
    obtain ⟨origin, inPatterns, rfl | rfl⟩ := (mem_interchange_iff first).mp inMiddle
    · exact ⟨origin, inPatterns, _, rfl, by tauto⟩
    · rw [Pattern.merge_exchange separate] at made
      exact ⟨origin, inPatterns, _, rfl, by tauto⟩
  · rintro ⟨origin, inPatterns, _, rfl, made⟩
    have upright := (mem_interchange_iff first).mpr ⟨origin, inPatterns, .inl rfl⟩
    have exchanged := (mem_interchange_iff first).mpr ⟨origin, inPatterns, .inr rfl⟩
    rcases made with rfl | rfl | rfl | rfl
    · exact ⟨_, upright, .inl rfl⟩
    · exact ⟨_, exchanged, .inl (Pattern.merge_exchange separate _).symm⟩
    · exact ⟨_, upright, .inr rfl⟩
    · refine ⟨_, exchanged, .inr ?_⟩
      rw [Pattern.merge_exchange separate]

/-- Pairs of synonyms that have no modifier in common come to the same in either order. -/
theorem alike_interchange_interchange (filter : Filter) :
    ((filter.interchange a b).interchange c d).Alike
      ((filter.interchange c d).interchange a b) := by
  by_cases first : a = b
  · simpa only [interchange, first, if_true] using alike_refl _
  by_cases second : c = d
  · simpa only [interchange, second, if_true] using alike_refl _
  have partner {a b c d : Mod} (separate : Rules.Disjoint (a, b) (c, d)) (first : a ≠ b)
      (second : c ≠ d) : ∀ pattern ∈ ((filter.interchange a b).interchange c d).patterns,
      ∃ other ∈ ((filter.interchange c d).interchange a b).patterns, pattern.Alike other := by
    intro pattern member
    obtain ⟨origin, inPatterns, merged, rfl, made⟩ :=
      (mem_interchange_interchange_iff separate first second).mp member
    have alike := origin.alike_merge_merge separate
    have image {other : Pattern} (made) : other ∈ _ :=
      (mem_interchange_interchange_iff separate.symm second first).mpr
        ⟨origin, inPatterns, _, rfl, made⟩
    rcases made with rfl | rfl | rfl | rfl
    · exact ⟨_, image (.inl rfl), alike⟩
    · exact ⟨_, image (.inr (.inr (.inl rfl))), alike.exchange rfl rfl⟩
    · exact ⟨_, image (.inr (.inl rfl)), alike.exchange rfl rfl⟩
    · refine ⟨_, image (.inr (.inr (.inr rfl))), ?_⟩
      have exchanged : Pattern.Alike _ (Pattern.exchange _ a b) := alike.exchange rfl rfl
      have both : Pattern.Alike _ (Pattern.exchange _ c d) := exchanged.exchange rfl rfl
      exact both.trans (Pattern.alike_exchange_exchange separate _)
  exact alike_of_partners (by simp) (partner separate first second)
    (partner separate.symm second first)

end Filter

end Separate

/-- Filters of which it does not count in which order they list something. -/
def UnorderedFilter : Type :=
  Quotient Filter.alikeSetoid

namespace UnorderedFilter

/-- Treats the two modifiers of a pair as synonyms, whichever of them comes first. -/
def interchange (filter : UnorderedFilter) : Sym2 Mod → UnorderedFilter :=
  Sym2.lift ⟨fun a b => Quotient.map (·.interchange a b)
    (fun _ _ alike => Filter.Renamed.interchange alike rfl rfl) filter, fun a b => by
      induction filter using Quotient.inductionOn with
      | h filter => exact Quotient.sound (filter.alike_interchange_swap a b)⟩

/-- Holds if two pairs come to the same in either order. -/
def Commutes (pair other : Sym2 Mod) : Prop :=
  ∀ filter : UnorderedFilter,
    (filter.interchange pair).interchange other = (filter.interchange other).interchange pair

instance : Std.Symm Commutes :=
  ⟨fun _ _ commutes filter => (commutes filter).symm⟩

/-- Separate pairs commute as rewrites of filters that are compared up to order. -/
theorem commutes_of_disjoint {pair other : Mod × Mod} (separate : Rules.Disjoint pair other) :
    Commutes s(pair.1, pair.2) s(other.1, other.2) := by
  intro filter
  induction filter using Quotient.inductionOn with
  | h filter => exact Quotient.sound (filter.alike_interchange_interchange separate)

end UnorderedFilter

namespace Rules

/-- The pairs of synonyms, without saying which modifier comes first. -/
def unordered (pairs : List (Mod × Mod)) : List (Sym2 Mod) :=
  pairs.map fun pair => s(pair.1, pair.2)

/-- Up to order, pairs of synonyms do what unordered pairs do. -/
theorem mk_interchangeAll (pairs : List (Mod × Mod)) (filter : Filter) :
    (Quotient.mk _ (interchangeAll pairs filter) : UnorderedFilter) =
      (unordered pairs).foldl UnorderedFilter.interchange (Quotient.mk _ filter) := by
  induction pairs generalizing filter with
  | nil => rfl
  | cons pair pairs ih => exact ih (filter.interchange pair.1 pair.2)

variable {pairs others : List (Mod × Mod)}

/-- Separate pairs come to the same in any order. -/
theorem alike_interchangeAll (separate : pairs.Pairwise Disjoint)
    (same : (unordered pairs).Perm (unordered others)) (filter : Filter) :
    (interchangeAll pairs filter).Alike (interchangeAll others filter) := by
  have comm : (unordered pairs).Pairwise UnorderedFilter.Commutes :=
    List.pairwise_map.mpr (separate.imp UnorderedFilter.commutes_of_disjoint)
  have all := comm.forall_of_forall fun _ _ _ => rfl
  have folded := same.foldl_eq' (fun _ first _ second => all first second) (Quotient.mk _ filter)
  rw [← mk_interchangeAll, ← mk_interchangeAll] at folded
  exact Quotient.exact folded

/-- Whether a modifier has a synonym depends only on the set of unordered pairs. -/
theorem hasSynonym_iff {mod : Mod} :
    HasSynonym pairs mod ↔ ∃ pair ∈ unordered pairs, ¬ pair.IsDiag ∧ mod ∈ pair := by
  simp [HasSynonym, unordered]

/-- Holds if the rules differ in nothing but the order of their pairs of synonyms and in which
modifier of a pair comes first. -/
structure IsReordering (rules other : Rules) : Prop where
  allowLegacy : other.allowLegacy = rules.allowLegacy
  legacyMod : other.legacyMod = rules.legacyMod
  synonyms : (unordered rules.synonyms).Perm (unordered other.synonyms)

variable {rules other : Rules}

/-- Whether the pairs make `+NM` of a filter does not depend on their order, so the legacy rule
takes the same branch. -/
theorem IsReordering.eq_onlyNoMod_iff (same : rules.IsReordering other) (filter : Filter) :
    interchangeAll other.synonyms filter = Filter.onlyNoMod ↔
      interchangeAll rules.synonyms filter = Filter.onlyNoMod := by
  have synonym : HasSynonym other.synonyms Mod.noMod ↔ HasSynonym rules.synonyms Mod.noMod := by
    rw [hasSynonym_iff, hasSynonym_iff]
    exact exists_congr fun pair => and_congr_left fun _ => same.synonyms.mem_iff.symm
  rw [interchangeAll_eq_onlyNoMod_iff, interchangeAll_eq_onlyNoMod_iff, synonym]

/-- Rules with the same separate pairs, in any order and written either way round, make the same of
a filter up to order. -/
theorem IsReordering.alike_apply (same : rules.IsReordering other)
    (separate : rules.synonyms.Pairwise Disjoint) (filter : Filter) :
    (rules.apply filter).Alike (other.apply filter) :=
  Rules.alike_apply same.allowLegacy same.legacyMod
    (alike_interchangeAll separate same.synonyms filter) (same.eq_onlyNoMod_iff filter)

end Rules

/-- The order of separate pairs of synonyms makes no difference, nor does the order within a pair:
filters get the same outlook and match the same candidates. -/
theorem pair_order_irrelevant {rules other : Rules}
    (separate : rules.synonyms.Pairwise Rules.Disjoint) (same : rules.IsReordering other)
    (filter : Filter) (candidate : List Mod) :
    (other.apply filter).outlook = (rules.apply filter).outlook ∧
      (other.apply filter).accepts candidate = (rules.apply filter).accepts candidate := by
  have alike := same.alike_apply separate filter
  refine ⟨alike.outlook_eq, ?_⟩
  have verdict := alike.accepts_eq rfl candidate
  rwa [Equiv.coe_refl, List.map_id] at verdict

/-- The pairs of the base profile, turned round and the other way round, make a different filter of
`+HDDT[HTFL](NC)`, but both match `HDNCDC` and neither is decided in advance. -/
theorem pair_order_irrelevant_in_base :
    let rules : Rules := { allowLegacy := true }
    let other : Rules :=
      { allowLegacy := true
        synonyms := [(⟨['D', 'C']⟩, ⟨['H', 'T']⟩), (⟨['N', 'C']⟩, ⟨['D', 'T']⟩)] }
    let filter : Filter := ⟨[⟨[Group.ofMods .required [⟨['H', 'D']⟩, ⟨['D', 'T']⟩],
      Group.ofMods .exclusive [⟨['H', 'T']⟩, ⟨['F', 'L']⟩],
      Group.ofMods .optional [⟨['N', 'C']⟩]], false⟩], false⟩
    let candidate : List Mod := [⟨['H', 'D']⟩, ⟨['N', 'C']⟩, ⟨['D', 'C']⟩]
    rules.synonyms.Pairwise Rules.Disjoint ∧ rules.IsReordering other ∧
      rules.apply filter ≠ other.apply filter ∧
      (other.apply filter).outlook = (rules.apply filter).outlook ∧
      (other.apply filter).accepts candidate = (rules.apply filter).accepts candidate ∧
      (rules.apply filter).outlook = .undecided ∧
      (rules.apply filter).accepts candidate = true := by
  intro rules other filter candidate
  have separate : rules.synonyms.Pairwise Rules.Disjoint := by decide
  have same : rules.IsReordering other := ⟨rfl, rfl, by decide⟩
  obtain ⟨outlook, verdict⟩ := pair_order_irrelevant separate same filter candidate
  exact ⟨separate, same, by decide, outlook, verdict, by decide, by decide⟩

end ScoreSieve
