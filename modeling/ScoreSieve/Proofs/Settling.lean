import ScoreSieve.Proofs.Waiving

namespace ScoreSieve

variable {a b chosen : Mod}

/-- The group with the chosen modifier in the place of the two if it is a required one. -/
def Group.settle (group : Group) (a b chosen : Mod) : Group :=
  if group.kind = .required then
    Group.ofMods group.kind (group.mods.map fun mod => if mod = a ∨ mod = b then chosen else mod)
  else group

@[simp] theorem Group.kind_settle (group : Group) (a b chosen : Mod) :
    (group.settle a b chosen).kind = group.kind := by
  unfold settle
  split <;> rfl

theorem Group.mem_settle_required {group : Group} (required : group.kind = .required) {mod : Mod} :
    mod ∈ (group.settle a b chosen).mods ↔
      mod ∈ group.mods ∧ mod ≠ a ∧ mod ≠ b ∨ (a ∈ group.mods ∨ b ∈ group.mods) ∧ mod = chosen := by
  rw [settle, if_pos required, mem_ofMods, List.mem_map]
  constructor
  · rintro ⟨origin, member, rfl⟩
    split
    next named =>
      exact .inr ⟨named.imp (fun same : origin = a => same ▸ member)
        fun same : origin = b => same ▸ member, rfl⟩
    next other => exact .inl ⟨member, not_or.mp other⟩
  · rintro (⟨member, notA, notB⟩ | ⟨named, rfl⟩)
    · exact ⟨mod, member, if_neg (not_or.mpr ⟨notA, notB⟩)⟩
    · rcases named with member | member
      · exact ⟨a, member, if_pos (.inl rfl)⟩
      · exact ⟨b, member, if_pos (.inr rfl)⟩

namespace Pattern

/-- The pattern with the chosen modifier in the place of the two in its required groups. -/
def settle (pattern : Pattern) (a b chosen : Mod) : Pattern :=
  { pattern with groups := pattern.groups.map (·.settle a b chosen) }

variable {pattern : Pattern}

theorem groupsOf_settle {kind : Kind} :
    (pattern.settle a b chosen).groupsOf kind =
      (pattern.groupsOf kind).map (·.settle a b chosen) := by
  simp only [groupsOf, settle, List.filter_map, Function.comp_def, Group.kind_settle]

theorem groupsOf_settle_of_kind {kind : Kind} (other : kind ≠ .required) :
    (pattern.settle a b chosen).groupsOf kind = pattern.groupsOf kind := by
  rw [groupsOf_settle]
  exact map_groupsOf_eq_self fun _ same => if_neg (by rwa [same])

/-- A settled pattern requires what the pattern requires, with the chosen modifier in the place of
the two. -/
theorem mem_modsOf_required_settle {mod : Mod} :
    mod ∈ (pattern.settle a b chosen).modsOf .required ↔
      mod ∈ pattern.modsOf .required ∧ mod ≠ a ∧ mod ≠ b ∨
        (a ∈ pattern.modsOf .required ∨ b ∈ pattern.modsOf .required) ∧ mod = chosen := by
  have settled (group : Group) (member : group ∈ pattern.groupsOf .required) :
      mod ∈ (group.settle a b chosen).mods ↔
        mod ∈ group.mods ∧ mod ≠ a ∧ mod ≠ b ∨ (a ∈ group.mods ∨ b ∈ group.mods) ∧ mod = chosen :=
    Group.mem_settle_required (mem_groupsOf.mp member).2
  rw [mem_modsOf_of_map groupsOf_settle,
    exists_congr fun group => and_congr_right (settled group)]
  simp only [mem_modsOf, and_or_left, exists_or, or_and_right, ← and_assoc, exists_and_right]

/-- Settling on one of the two modifiers puts a demand for it in the place of the demand for
either. -/
theorem gains_settle
    (required : a ∈ pattern.modsOf .required ∨ b ∈ pattern.modsOf .required) :
    (pattern.waive a b).Gains [chosen] [] (pattern.settle a b chosen) where
  required mod := by
    rw [mem_modsOf_required_settle, mem_modsOf_required_waive, and_iff_right required,
      List.mem_singleton]
  exclusive group := by
    rw [groupsOf_settle_of_kind (by decide), groupsOf_waive (by decide)]
    simp
  optional := by rw [groupsOf_settle_of_kind (by decide), groupsOf_waive (by decide)]
  prohibited mod := by
    rw [modsOf, groupsOf_settle_of_kind (by decide), ← modsOf, modsOf_waive (by decide)]

/-- Holds if none but required groups name one of the two modifiers. -/
def OnlyRequires (pattern : Pattern) (a b : Mod) : Prop :=
  ∀ group ∈ pattern.groups, group.kind ≠ .required → a ∉ group.mods ∧ b ∉ group.mods

instance (pattern : Pattern) (a b : Mod) : Decidable (pattern.OnlyRequires a b) :=
  inferInstanceAs (Decidable (∀ group ∈ pattern.groups, _ → _))

namespace OnlyRequires

variable (only : pattern.OnlyRequires a b)

include only

theorem not_mem_modsOf {kind : Kind} (other : kind ≠ .required) {mod : Mod}
    (named : mod = a ∨ mod = b) : mod ∉ pattern.modsOf kind := by
  intro member
  obtain ⟨group, inGroups, listed⟩ := mem_modsOf.mp member
  obtain ⟨inPattern, rfl⟩ := mem_groupsOf.mp inGroups
  obtain ⟨notA, notB⟩ := only group inPattern other
  rcases named with rfl | rfl
  · exact notA listed
  · exact notB listed

/-- Once neither modifier is required, nothing lists them. -/
theorem not_lists_waive {mods : Finset Mod} {mod : Mod} (named : mod = a ∨ mod = b) :
    ¬ (pattern.waive a b).Lists mods mod := by
  have unlisted {kind : Kind} (other : kind ≠ .required) :
      mod ∉ (pattern.waive a b).modsOf kind := by
    rw [modsOf_waive other]
    exact only.not_mem_modsOf other named
  rintro (required | ⟨group, inGroups, _, listed⟩ | ⟨group, inGroups, _, listed⟩)
  · obtain ⟨_, notA, notB⟩ := mem_modsOf_required_waive.mp (mem_modsOf.mpr required)
    exact named.elim notA notB
  · exact unlisted (by decide) (mem_modsOf.mpr ⟨group, inGroups, listed⟩)
  · exact unlisted (by decide) (mem_modsOf.mpr ⟨group, inGroups, listed⟩)

/-- The merged pattern gives no choice that tells the two modifiers apart. -/
theorem counterpart?_merge : (pattern.merge a b).counterpart? a b = none := by
  refine Option.eq_none_iff_forall_not_mem.mpr fun image found => ?_
  obtain ⟨group, member, favours⟩ := List.any_eq_true.mp (mem_counterpart?_iff.mp found).1
  rcases mem_merge.mp member with ⟨origin, inPattern, rfl⟩ | ⟨_, rfl⟩
  · have choice : origin.kind = .optional ∨ origin.kind = .exclusive := by
      simp only [Group.favours, Bool.and_eq_true, Bool.or_eq_true, decide_eq_true_eq,
        Group.kind_merge] at favours
      exact favours.1
    rw [Group.merge_of_choice choice] at favours
    obtain ⟨notA, notB⟩ := only origin inPattern (Group.kind_of_favours favours)
    simp [Group.favours, notA, notB] at favours
  · simp [Group.favours] at favours

/-- A pattern that only requires two modifiers has no counterpart, so making synonyms of them is
merging them. -/
theorem interchange_eq (different : a ≠ b) :
    Filter.interchange ⟨[pattern], false⟩ a b = ⟨[pattern.merge a b], false⟩ := by
  simp [Filter.interchange, different, only.counterpart?_merge]

end OnlyRequires

/-- What a pattern admits does not depend on the inversion. -/
theorem admits_mk_iff {inverted : Bool} {mods : Finset Mod} :
    (Pattern.mk pattern.groups inverted).Admits mods ↔ pattern.Admits mods := by
  rw [admits_def, @admits_def pattern]
  rfl

/-- Two modifiers that count as present are applied: `NM` is present by itself only. -/
theorem mem_of_mem_effective {mods : Finset Mod} {mod other : Mod} (different : mod ≠ other)
    (isPresent : mod ∈ effective mods) (isOther : other ∈ effective mods) : mod ∈ mods := by
  by_cases none : mods = ∅
  · rw [effective, if_pos none, Finset.mem_singleton] at isPresent isOther
    exact absurd (isPresent.trans isOther.symm) different
  · rwa [effective, if_neg none] at isPresent

/-- Where nothing else lists the other modifier, to be there without it is not to list it. -/
theorem present_alone_iff {mods : Finset Mod} {listed : Mod → Prop} {choice : Group} {other : Mod}
    (different : chosen ≠ other) (unlisted : ¬ listed other)
    (pair : ∀ mod, mod ∈ choice.mods ↔ mod = chosen ∨ mod = other) :
    (chosen ∈ effective mods ∧ other ∉ effective mods ∧
        ∀ mod ∈ mods, listed mod ∨ mod ∈ choice.mods) ↔
      chosen ∈ effective mods ∧ ∀ mod ∈ mods, listed mod ∨ mod = chosen := by
  refine and_congr_right fun isPresent => ⟨fun ⟨absent, all⟩ mod isApplied => ?_, fun all => ?_⟩
  · refine (all mod isApplied).imp_right fun inChoice => ?_
    rcases (pair mod).mp inChoice with same | rfl
    · exact same
    · exact absurd (mem_effective_of_mem isApplied) absent
  · refine ⟨fun isOther => ?_, fun mod isApplied => ?_⟩
    · have isApplied := mem_of_mem_effective different.symm isOther isPresent
      exact (all other isApplied).elim unlisted different.symm
    · exact (all mod isApplied).imp_right fun same => (pair mod).mpr (.inl same)

namespace OnlyRequires

variable {mods : Finset Mod} (only : pattern.OnlyRequires a b)
  (required : a ∈ pattern.modsOf .required ∨ b ∈ pattern.modsOf .required)

include only required

/-- Settled on one of the two modifiers, the pattern asks for it and refuses the other one. -/
theorem admits_settle_iff {other : Mod} (different : chosen ≠ other)
    (pair : ∀ mod, mod ∈ (Group.ofMods .exclusive [a, b]).mods ↔ mod = chosen ∨ mod = other) :
    (pattern.settle a b chosen).Admits mods ↔
      (pattern.waive a b).IsMet (effective mods) ∧ chosen ∈ effective mods ∧
        other ∉ effective mods ∧ ∀ mod ∈ mods, (pattern.waive a b).Lists mods mod ∨
          mod ∈ (Group.ofMods .exclusive [a, b]).mods := by
  have named : other = a ∨ other = b := by simpa using (pair other).mpr (.inr rfl)
  rw [(gains_settle required).admits_iff_of_demands ⟨chosen, List.mem_singleton_self _⟩,
    present_alone_iff different (only.not_lists_waive named) pair]
  simp only [List.mem_singleton, forall_eq]

/-- A pattern that only requires the two modifiers admits, once they are synonyms, what it admits
settled on the one or on the other. -/
theorem admits_merge_iff_settled (different : a ≠ b) :
    (pattern.merge a b).Admits mods ↔
      (pattern.settle a b a).Admits mods ∨ (pattern.settle a b b).Admits mods := by
  have free : a ∉ pattern.modsOf .prohibited ∧ b ∉ pattern.modsOf .prohibited :=
    ⟨only.not_mem_modsOf (by decide) (.inl rfl), only.not_mem_modsOf (by decide) (.inr rfl)⟩
  rw [only.admits_settle_iff required different (by simp),
    only.admits_settle_iff required different.symm (by simp [or_comm]),
    admits_merge_iff different required free, ← and_or_left, or_and_right, and_assoc, and_assoc]

end OnlyRequires

end Pattern

/-- To require a synonym is to require either modifier. A pattern that names one of two modifiers in
a required group, and neither of them in a group of another kind, stays one pattern once they are
synonyms. It accepts what it accepts with the one or with the other modifier in the place of both,
and the opposite if it is inverted. -/
theorem required_synonym_means_either {pattern : Pattern} {a b : Mod} (different : a ≠ b)
    (required : a ∈ pattern.modsOf .required ∨ b ∈ pattern.modsOf .required)
    (only : pattern.OnlyRequires a b) :
    let settled (chosen : Mod) : Filter := ⟨[⟨(pattern.settle a b chosen).groups, false⟩], false⟩
    ∃ image : Pattern, Filter.interchange ⟨[pattern], false⟩ a b = ⟨[image], false⟩ ∧
      image.inverted = pattern.inverted ∧
      ∀ candidate, Filter.accepts ⟨[image], false⟩ candidate =
        (((settled a).accepts candidate || (settled b).accepts candidate) ^^ pattern.inverted) := by
  intro settled
  refine ⟨pattern.merge a b, only.interchange_eq different, rfl, fun candidate => ?_⟩
  have single (pattern : Pattern) : Filter.accepts ⟨[pattern], false⟩ candidate =
      (decide (pattern.Admits (appliedSet candidate)) ^^ pattern.inverted) := by
    rw [Filter.accepts_single, Pattern.accepts_eq_evaluate, Pattern.evaluate_eq_meaning,
      Pattern.meaning]
  have upright (chosen : Mod) : (settled chosen).accepts candidate =
      decide ((pattern.settle a b chosen).Admits (appliedSet candidate)) := by
    simp only [settled, single, Pattern.admits_mk_iff, Bool.xor_false]
  have merged : (pattern.merge a b).inverted = pattern.inverted := rfl
  rw [single, upright, upright, merged, ← Bool.decide_or]
  simp only [only.admits_merge_iff_settled required different]

/-- Of `^HDDT(EZ)NC[FLHR]` the synonyms `DT` and `NC` make `^HD(EZ)[FLHR][DTNC][DTNC]`, which
refuses `HDNCFL` and accepts it with `DT` besides. In `+NM` with `NM` and `HD` as synonyms, either
will do. -/
theorem required_synonym_in_two_groups :
    let hidden : Mod := ⟨['H', 'D']⟩
    let doubleTime : Mod := ⟨['D', 'T']⟩
    let nightcore : Mod := ⟨['N', 'C']⟩
    let flashlight : Mod := ⟨['F', 'L']⟩
    let pattern : Pattern :=
      ⟨[Group.ofMods .required [hidden, doubleTime], Group.ofMods .optional [⟨['E', 'Z']⟩],
        Group.ofMods .required [nightcore], Group.ofMods .exclusive [flashlight, ⟨['H', 'R']⟩]],
        true⟩
    let settled (chosen : Mod) : Filter :=
      ⟨[⟨(pattern.settle doubleTime nightcore chosen).groups, false⟩], false⟩
    let nothing : Pattern := ⟨[Group.ofMods .required [Mod.noMod]], false⟩
    let settledNothing (chosen : Mod) : Filter :=
      ⟨[⟨(nothing.settle Mod.noMod hidden chosen).groups, false⟩], false⟩
    (doubleTime ≠ nightcore ∧
      (doubleTime ∈ pattern.modsOf .required ∨ nightcore ∈ pattern.modsOf .required) ∧
      pattern.OnlyRequires doubleTime nightcore ∧
      (settled nightcore).accepts [hidden, nightcore, flashlight] = true ∧
      (settled nightcore).accepts [hidden, nightcore, flashlight, doubleTime] = false ∧
      ∃ image : Pattern,
        Filter.interchange ⟨[pattern], false⟩ doubleTime nightcore = ⟨[image], false⟩ ∧
        image.inverted = pattern.inverted ∧
        ∀ candidate, Filter.accepts ⟨[image], false⟩ candidate =
          (((settled doubleTime).accepts candidate || (settled nightcore).accepts candidate) ^^
            pattern.inverted)) ∧
    (Mod.noMod ≠ hidden ∧
      (Mod.noMod ∈ nothing.modsOf .required ∨ hidden ∈ nothing.modsOf .required) ∧
      nothing.OnlyRequires Mod.noMod hidden ∧
      (settledNothing Mod.noMod).accepts [] = true ∧
      (settledNothing hidden).accepts [hidden] = true ∧
      ∃ image : Pattern,
        Filter.interchange ⟨[nothing], false⟩ Mod.noMod hidden = ⟨[image], false⟩ ∧
        image.inverted = nothing.inverted ∧
        ∀ candidate, Filter.accepts ⟨[image], false⟩ candidate =
          (((settledNothing Mod.noMod).accepts candidate ||
            (settledNothing hidden).accepts candidate) ^^ nothing.inverted)) := by
  intro hidden doubleTime nightcore flashlight pattern settled nothing settledNothing
  have different : doubleTime ≠ nightcore := by decide
  have required : doubleTime ∈ pattern.modsOf .required ∨ nightcore ∈ pattern.modsOf .required := by
    decide
  have only : pattern.OnlyRequires doubleTime nightcore := by decide
  have differentNothing : Mod.noMod ≠ hidden := by decide
  have requiredNothing : Mod.noMod ∈ nothing.modsOf .required ∨
      hidden ∈ nothing.modsOf .required := by decide
  have onlyNothing : nothing.OnlyRequires Mod.noMod hidden := by decide
  exact ⟨⟨different, required, only, by decide, by decide,
      required_synonym_means_either different required only⟩,
    differentNothing, requiredNothing, onlyNothing, by decide, by decide,
    required_synonym_means_either differentNothing requiredNothing onlyNothing⟩

end ScoreSieve
