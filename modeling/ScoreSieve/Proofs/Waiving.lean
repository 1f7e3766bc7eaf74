import ScoreSieve.Proofs.Core
import ScoreSieve.Proofs.Negation
import ScoreSieve.Proofs.OnlyNoMod

namespace ScoreSieve

variable {a b : Mod}

namespace Pattern

/-- Holds if the image asks for the demanded modifiers and for one modifier of each choice on top of
what the pattern asks for. -/
structure Gains (pattern : Pattern) (demanded : List Mod) (choices : List Group) (image : Pattern) :
    Prop where
  required : ∀ mod, mod ∈ image.modsOf .required ↔ mod ∈ pattern.modsOf .required ∨ mod ∈ demanded
  exclusive : ∀ group, group ∈ image.groupsOf .exclusive ↔
    group ∈ pattern.groupsOf .exclusive ∨ group ∈ choices
  optional : image.groupsOf .optional = pattern.groupsOf .optional
  prohibited : ∀ mod, mod ∈ image.modsOf .prohibited ↔ mod ∈ pattern.modsOf .prohibited

theorem forall_required_iff {pattern : Pattern} {p : Mod → Prop} :
    (∀ group ∈ pattern.groupsOf .required, ∀ mod ∈ group.mods, p mod) ↔
      ∀ mod ∈ pattern.modsOf .required, p mod := by
  simp only [mem_modsOf]
  constructor
  · rintro all mod ⟨group, inGroups, member⟩
    exact all group inGroups mod member
  · intro all group inGroups mod member
    exact all mod ⟨group, inGroups, member⟩

theorem exists_required_iff {pattern : Pattern} :
    (∃ group ∈ pattern.groupsOf .required, group.mods ≠ []) ↔
      ∃ mod, mod ∈ pattern.modsOf .required := by
  simp only [mem_modsOf]
  constructor
  · rintro ⟨group, inGroups, some⟩
    obtain ⟨mod, member⟩ := List.exists_mem_of_ne_nil _ some
    exact ⟨mod, group, inGroups, member⟩
  · rintro ⟨mod, group, inGroups, member⟩
    exact ⟨group, inGroups, List.ne_nil_of_mem member⟩

namespace Gains

variable {pattern image : Pattern} {demanded : List Mod} {choices : List Group}
  (gains : pattern.Gains demanded choices image) {mods : Finset Mod}

include gains

theorem isDead_iff {group : Group} : image.IsDead group ↔ pattern.IsDead group :=
  forall_congr' fun mod => forall_congr' fun _ => gains.prohibited mod

/-- A pattern with more demands is met where the pattern and all these demands are met. -/
theorem isMet_iff :
    image.IsMet mods ↔
      pattern.IsMet mods ∧ (∀ mod ∈ demanded, mod ∈ mods) ∧
        ∀ choice ∈ choices, ¬ pattern.IsDead choice → choice.mods.countP (· ∈ mods) = 1 := by
  simp only [IsMet, forall_required_iff, gains.required, gains.exclusive, gains.isDead_iff,
    gains.prohibited, or_imp, forall_and]
  tauto

theorem isDemanding_iff :
    image.IsDemanding ↔
      pattern.IsDemanding ∨ (∃ mod, mod ∈ demanded) ∨
        ∃ choice ∈ choices, ¬ pattern.IsDead choice := by
  simp only [IsDemanding, exists_required_iff, gains.required, gains.exclusive, gains.isDead_iff,
    or_and_right, exists_or]
  exact or_or_or_comm

theorem lists_iff {mod : Mod} :
    image.Lists mods mod ↔
      pattern.Lists mods mod ∨ mod ∈ demanded ∨
        ∃ choice ∈ choices, ¬ pattern.IsDead choice ∧ mod ∈ choice.mods := by
  simp only [Lists, ← mem_modsOf, gains.required, gains.exclusive, gains.optional,
    gains.isDead_iff, or_and_right, exists_or]
  exact (or_congr_right or_right_comm).trans or_or_or_comm

end Gains

variable {pattern image : Pattern} {mods : Finset Mod}

/-- A pattern that gains demands asks for them and lists them. -/
theorem Gains.admits_iff_of_demands {demanded : List Mod}
    (gains : pattern.Gains demanded [] image) (some : ∃ mod, mod ∈ demanded) :
    image.Admits mods ↔
      pattern.IsMet (effective mods) ∧ (∀ mod ∈ demanded, mod ∈ effective mods) ∧
        ∀ mod ∈ mods, pattern.Lists mods mod ∨ mod ∈ demanded := by
  have demanding : image.IsDemanding := gains.isDemanding_iff.mpr (.inr (.inl some))
  rw [admits_iff_isMet, gains.isMet_iff, forall_prop_of_true demanding]
  simp [gains.lists_iff, and_assoc]

/-- A pattern that gains a choice asks for one of its modifiers and lists them all. -/
theorem Gains.admits_iff_of_choice {choice : Group} (gains : pattern.Gains [] [choice] image)
    (alive : ¬ pattern.IsDead choice) :
    image.Admits mods ↔
      pattern.IsMet (effective mods) ∧ choice.mods.countP (· ∈ effective mods) = 1 ∧
        ∀ mod ∈ mods, pattern.Lists mods mod ∨ mod ∈ choice.mods := by
  have demanding : image.IsDemanding :=
    gains.isDemanding_iff.mpr (.inr (.inr ⟨choice, List.mem_singleton_self _, alive⟩))
  rw [admits_iff_isMet, gains.isMet_iff, forall_prop_of_true demanding]
  simp [gains.lists_iff, alive, and_assoc]

theorem groupsOf_unrequire_of_kind {mod : Mod} {kind : Kind} (other : kind ≠ .required) :
    (pattern.unrequire mod).groupsOf kind = pattern.groupsOf kind := by
  rw [groupsOf_unrequire]
  exact map_groupsOf_eq_self fun _ same => Group.unrequire_of_kind (by rwa [same])

theorem mem_modsOf_required_unrequire {mod other : Mod} :
    other ∈ (pattern.unrequire mod).modsOf .required ↔
      other ∈ pattern.modsOf .required ∧ other ≠ mod := by
  have member : ∀ group ∈ pattern.groupsOf .required,
      (other ∈ (group.unrequire mod).mods ↔ other ∈ group.mods ∧ other ≠ mod) := by
    intro group inGroups
    simp [Group.unrequire, (mem_groupsOf.mp inGroups).2]
  rw [mem_modsOf_of_map groupsOf_unrequire, mem_modsOf, ← exists_and_right]
  exact exists_congr fun group => and_congr_right (member group) |>.trans and_assoc.symm

/-- The pattern without the two modifiers in its required groups. -/
def waive (pattern : Pattern) (a b : Mod) : Pattern :=
  (pattern.unrequire a).unrequire b

theorem groupsOf_waive {kind : Kind} (other : kind ≠ .required) :
    (pattern.waive a b).groupsOf kind = pattern.groupsOf kind := by
  rw [waive, groupsOf_unrequire_of_kind other, groupsOf_unrequire_of_kind other]

theorem modsOf_waive {kind : Kind} (other : kind ≠ .required) :
    (pattern.waive a b).modsOf kind = pattern.modsOf kind := by
  rw [modsOf, groupsOf_waive other, modsOf]

theorem mem_modsOf_required_waive {mod : Mod} :
    mod ∈ (pattern.waive a b).modsOf .required ↔
      mod ∈ pattern.modsOf .required ∧ mod ≠ a ∧ mod ≠ b := by
  rw [waive, mem_modsOf_required_unrequire, mem_modsOf_required_unrequire, and_assoc]

/-- A pattern demands on top of the waived one what of the two modifiers it requires. -/
theorem gains_self (pattern : Pattern) (a b : Mod) :
    (pattern.waive a b).Gains ([a, b].filter (· ∈ pattern.modsOf .required)) [] pattern where
  required mod := by
    simp only [mem_modsOf_required_waive, List.mem_filter, List.mem_pair, decide_eq_true_eq]
    by_cases first : mod = a
    · simp [first]
    by_cases second : mod = b
    · simp [second]
    · simp [first, second]
  exclusive group := by simp [groupsOf_waive]
  optional := (groupsOf_waive (by decide)).symm
  prohibited mod := by rw [modsOf_waive (by decide)]

theorem groupsOf_optional_merge :
    (pattern.merge a b).groupsOf .optional = pattern.groupsOf .optional := by
  rw [groupsOf_merge (by decide)]
  exact map_groupsOf_eq_self fun _ same => Group.merge_of_choice (.inl same)

/-- A group demands one of two modifiers exactly if the pattern requires one. -/
theorem exists_demands_iff :
    (∃ group ∈ pattern.groups, group.demands a b = true) ↔
      a ∈ pattern.modsOf .required ∨ b ∈ pattern.modsOf .required := by
  simp only [Group.demands, Group.mentions, mem_modsOf, mem_groupsOf, Bool.and_eq_true,
    Bool.or_eq_true, decide_eq_true_eq, and_or_left, exists_or, and_assoc]

/-- Merging adds the choice of the two modifiers if some required group names one of them. -/
theorem mem_groupsOf_exclusive_merge {group : Group} :
    group ∈ (pattern.merge a b).groupsOf .exclusive ↔
      group ∈ pattern.groupsOf .exclusive ∨
        (a ∈ pattern.modsOf .required ∨ b ∈ pattern.modsOf .required) ∧
          group = Group.ofMods .exclusive [a, b] := by
  rw [← exists_demands_iff]
  constructor
  · intro member
    obtain ⟨inMerge, kind⟩ := mem_groupsOf.mp member
    rcases mem_merge.mp inMerge with ⟨origin, inGroups, rfl⟩ | added
    · rw [Group.kind_merge] at kind
      rw [Group.merge_of_choice (.inr kind)]
      exact .inl (mem_groupsOf.mpr ⟨inGroups, kind⟩)
    · exact .inr added
  · rintro (old | ⟨⟨origin, inGroups, demands⟩, rfl⟩)
    · obtain ⟨inGroups, kind⟩ := mem_groupsOf.mp old
      have same : group.merge a b = group := Group.merge_of_choice (.inr kind)
      exact mem_groupsOf.mpr ⟨mem_merge.mpr (.inl ⟨group, inGroups, same⟩), kind⟩
    · exact mem_groupsOf.mpr ⟨choice_mem_merge inGroups demands, rfl⟩

/-- Where neither of the two modifiers is prohibited, merging puts a choice in the place of the
demand for one of them. -/
theorem gains_merge
    (required : a ∈ pattern.modsOf .required ∨ b ∈ pattern.modsOf .required)
    (free : a ∉ pattern.modsOf .prohibited ∧ b ∉ pattern.modsOf .prohibited) :
    (pattern.waive a b).Gains [] [Group.ofMods .exclusive [a, b]] (pattern.merge a b) where
  required mod := by simp only [mem_modsOf_required_merge, mem_modsOf_required_waive,
    List.not_mem_nil, or_false]
  exclusive group := by
    rw [mem_groupsOf_exclusive_merge, groupsOf_waive (by decide), and_iff_right required,
      List.mem_singleton]
  optional := by rw [groupsOf_optional_merge, groupsOf_waive (by decide)]
  prohibited mod := by
    rw [mem_modsOf_prohibited_merge, modsOf_waive (by decide)]
    exact or_iff_left fun banned => banned.1.elim free.1 free.2

/-- Merging changes nothing in a pattern that neither requires nor prohibits the two modifiers. -/
theorem merge_eq_self
    (idle : ¬ (a ∈ pattern.modsOf .required ∨ b ∈ pattern.modsOf .required))
    (free : a ∉ pattern.modsOf .prohibited ∧ b ∉ pattern.modsOf .prohibited) :
    pattern.merge a b = pattern := by
  refine IsMerged.merge_eq fun group inGroups => ?_
  have listed {kind : Kind} (same : group.kind = kind) {mod : Mod} (member : mod ∈ group.mods) :
      mod ∈ pattern.modsOf kind :=
    mem_modsOf.mpr ⟨group, mem_groupsOf.mpr ⟨inGroups, same⟩, member⟩
  constructor
  · intro required
    obtain ⟨notA, notB⟩ := not_or.mp idle
    exact ⟨mt (listed required) notA, mt (listed required) notB⟩
  · intro prohibited
    exact iff_of_false (mt (listed prohibited) free.1) (mt (listed prohibited) free.2)

/-- The choice of two modifiers is met if one of them is present without the other. -/
theorem countP_choice_eq_one_iff (different : a ≠ b) :
    (Group.ofMods .exclusive [a, b]).mods.countP (· ∈ mods) = 1 ↔
      a ∈ mods ∧ b ∉ mods ∨ b ∈ mods ∧ a ∉ mods := by
  have listed : (Group.ofMods .exclusive [a, b]).mods = [a, b] :=
    distinct_eq_self (by simpa using different)
  by_cases first : a ∈ mods <;> by_cases second : b ∈ mods <;> simp [listed, first, second]

/-- Merged, a pattern that requires one of two modifiers and prohibits neither asks for the rest of
it and for one of the two without the other. -/
theorem admits_merge_iff (different : a ≠ b)
    (required : a ∈ pattern.modsOf .required ∨ b ∈ pattern.modsOf .required)
    (free : a ∉ pattern.modsOf .prohibited ∧ b ∉ pattern.modsOf .prohibited) :
    (pattern.merge a b).Admits mods ↔
      (pattern.waive a b).IsMet (effective mods) ∧
        (a ∈ effective mods ∧ b ∉ effective mods ∨ b ∈ effective mods ∧ a ∉ effective mods) ∧
        ∀ mod ∈ mods, (pattern.waive a b).Lists mods mod ∨
          mod ∈ (Group.ofMods .exclusive [a, b]).mods := by
  have alive : ¬ (pattern.waive a b).IsDead (Group.ofMods .exclusive [a, b]) := by
    intro dead
    have banned := dead a (Group.mem_ofMods.mpr List.mem_cons_self)
    rw [modsOf_waive (by decide)] at banned
    exact free.1 banned
  rw [(gains_merge required free).admits_iff_of_choice alive, countP_choice_eq_one_iff different]

/-- What a pattern admits without the two modifiers together, it still admits once it makes no
difference between them. -/
theorem admits_merge_of_admits (different : a ≠ b) (realA : a ≠ Mod.noMod) (realB : b ≠ Mod.noMod)
    (free : a ∉ pattern.modsOf .prohibited ∧ b ∉ pattern.modsOf .prohibited)
    (separate : ¬ (a ∈ mods ∧ b ∈ mods)) (admits : pattern.Admits mods) :
    (pattern.merge a b).Admits mods := by
  by_cases required : a ∈ pattern.modsOf .required ∨ b ∈ pattern.modsOf .required
  · have some : ∃ mod, mod ∈ [a, b].filter (· ∈ pattern.modsOf .required) := by
      rcases required with named | named
      · exact ⟨a, by simpa using named⟩
      · exact ⟨b, by simpa using named⟩
    obtain ⟨met, present, listed⟩ := ((gains_self pattern a b).admits_iff_of_demands some).mp admits
    refine (admits_merge_iff different required free).mpr ⟨met, ?_, fun mod isApplied => ?_⟩
    · rw [mem_effective_iff realA, mem_effective_iff realB]
      have demanded : a ∈ mods ∨ b ∈ mods := by
        rw [← mem_effective_iff realA, ← mem_effective_iff realB]
        exact required.imp (fun named => present a (by simpa using named))
          fun named => present b (by simpa using named)
      tauto
    · refine (listed mod isApplied).imp_right fun demand => ?_
      exact Group.mem_ofMods.mpr (List.mem_filter.mp demand).1
  · rwa [merge_eq_self required free]

/-- A pattern that is not inverted accepts the candidates whose applied modifiers it admits. -/
theorem accepts_iff_admits (upright : pattern.inverted = false) (candidate : List Mod) :
    pattern.accepts candidate = true ↔ pattern.Admits (appliedSet candidate) := by
  rw [accepts_eq_evaluate, evaluate_eq_meaning, meaning, upright, Bool.xor_false,
    decide_eq_true_eq]

end Pattern

namespace Filter

theorem accepts_single (pattern : Pattern) (candidate : List Mod) :
    Filter.accepts ⟨[pattern], false⟩ candidate = pattern.accepts candidate := by
  rw [accepts_eq_any (List.cons_ne_nil _ _)]
  simp

/-- A filter that is not inverted accepts what one of its patterns accepts; without patterns it
accepts everything. -/
theorem accepts_iff_exists {filter : Filter} (upright : filter.inverted = false)
    (candidate : List Mod) :
    filter.accepts candidate = true ↔
      filter.patterns = [] ∨ ∃ pattern ∈ filter.patterns, pattern.accepts candidate = true := by
  simp only [accepts_eq_any_evaluate, upright, Bool.xor_false, Bool.or_eq_true, List.isEmpty_iff,
    List.any_eq_true, Pattern.accepts_eq_evaluate]

end Filter

/-- Treating two modifiers as synonyms loses no score. Where a filter inverts nothing and prohibits
neither of the two, whatever it accepts without both of them together is accepted afterwards, and so
is the same with the two exchanged. -/
theorem interchange_loses_nothing {filter : Filter} {a b : Mod} (different : a ≠ b)
    (realA : a ≠ Mod.noMod) (realB : b ≠ Mod.noMod) (upright : filter.inverted = false)
    (patterns : ∀ pattern ∈ filter.patterns, pattern.inverted = false)
    (free : ∀ pattern ∈ filter.patterns,
      a ∉ pattern.modsOf .prohibited ∧ b ∉ pattern.modsOf .prohibited)
    {candidate : List Mod} (separate : ¬ (a ∈ candidate ∧ b ∈ candidate))
    (accepted : filter.accepts candidate = true) :
    (filter.interchange a b).accepts candidate = true ∧
      (filter.interchange a b).accepts (candidate.map (Equiv.swap a b)) = true := by
  have kept : (filter.interchange a b).accepts candidate = true := by
    rw [Filter.accepts_iff_exists (by rw [Filter.inverted_interchange, upright])]
    rcases (Filter.accepts_iff_exists upright candidate).mp accepted with
      none | ⟨pattern, member, accepts⟩
    · exact .inl (by simp [Filter.interchange, different, none])
    · refine .inr ⟨pattern.merge a b,
        (Filter.mem_interchange_iff different).mpr ⟨pattern, member, .inl rfl⟩, ?_⟩
      have merged : (pattern.merge a b).inverted = false := patterns pattern member
      rw [Pattern.accepts_iff_admits merged]
      refine Pattern.admits_merge_of_admits different realA realB
        (free pattern member) (fun both => separate ?_)
        ((Pattern.accepts_iff_admits (patterns pattern member) candidate).mp accepts)
      exact ⟨(mem_appliedSet.mp both.1).1, (mem_appliedSet.mp both.2).1⟩
  have real : Equiv.swap a b Mod.noMod = Mod.noMod :=
    Equiv.swap_apply_of_ne_of_ne realA.symm realB.symm
  refine ⟨kept, ?_⟩
  rw [(filter.renamed_interchange different).accepts_eq real]
  exact kept

/-- `+HDDT(NC)[NCFL]{HR}` accepts `HDDTFL`. With `DT` and `NC` as synonyms it is the counterpart
`HD(DT)[DTFL]{HR}[DTNC]` that accepts `HDNCFL`. -/
theorem interchange_keeps_spread_synonym :
    let hidden : Mod := ⟨['H', 'D']⟩
    let doubleTime : Mod := ⟨['D', 'T']⟩
    let nightcore : Mod := ⟨['N', 'C']⟩
    let flashlight : Mod := ⟨['F', 'L']⟩
    let filter : Filter :=
      ⟨[⟨[Group.ofMods .required [hidden, doubleTime], Group.ofMods .optional [nightcore],
        Group.ofMods .exclusive [nightcore, flashlight], Group.ofMods .prohibited [⟨['H', 'R']⟩]],
        false⟩], false⟩
    doubleTime ≠ nightcore ∧ doubleTime ≠ Mod.noMod ∧ nightcore ≠ Mod.noMod ∧
      filter.inverted = false ∧ (∀ pattern ∈ filter.patterns, pattern.inverted = false) ∧
      (∀ pattern ∈ filter.patterns,
        doubleTime ∉ pattern.modsOf .prohibited ∧ nightcore ∉ pattern.modsOf .prohibited) ∧
      ¬ (doubleTime ∈ [hidden, doubleTime, flashlight] ∧
        nightcore ∈ [hidden, doubleTime, flashlight]) ∧
      filter.accepts [hidden, doubleTime, flashlight] = true ∧
      (filter.interchange doubleTime nightcore).accepts [hidden, doubleTime, flashlight] = true ∧
      (filter.interchange doubleTime nightcore).accepts
        ([hidden, doubleTime, flashlight].map (Equiv.swap doubleTime nightcore)) = true := by
  intro hidden doubleTime nightcore flashlight filter
  have different : doubleTime ≠ nightcore := by decide
  have realA : doubleTime ≠ Mod.noMod := by decide
  have realB : nightcore ≠ Mod.noMod := by decide
  have patterns : ∀ pattern ∈ filter.patterns, pattern.inverted = false := by decide
  have free : ∀ pattern ∈ filter.patterns, doubleTime ∉ pattern.modsOf .prohibited ∧
      nightcore ∉ pattern.modsOf .prohibited := by decide
  have separate : ¬ (doubleTime ∈ [hidden, doubleTime, flashlight] ∧
      nightcore ∈ [hidden, doubleTime, flashlight]) := by decide
  have accepted : filter.accepts [hidden, doubleTime, flashlight] = true := by decide
  exact ⟨different, realA, realB, rfl, patterns, free, separate, accepted,
    interchange_loses_nothing different realA realB rfl patterns free separate accepted⟩

end ScoreSieve
