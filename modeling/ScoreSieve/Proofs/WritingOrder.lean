import ScoreSieve.Proofs.OnlyNoMod
import ScoreSieve.Proofs.Shape

namespace ScoreSieve

/-- Holds if one list is the other one in a different order, up to a relation of the members. -/
def Reordered {α : Type} (R : α → α → Prop) (l k : List α) : Prop :=
  ∃ m, l.Perm m ∧ List.Forall₂ R m k

/-- Holds if both groups are of the same kind and list the same modifiers in some order. -/
structure Group.IsReordering (group other : Group) : Prop where
  kind : other.kind = group.kind
  mods : group.mods.Perm other.mods

/-- Holds if both patterns have the same groups, in some order and each in some order. -/
structure Pattern.IsReordering (pattern other : Pattern) : Prop where
  inverted : other.inverted = pattern.inverted
  groups : Reordered Group.IsReordering pattern.groups other.groups

/-- Holds if both filters have the same patterns, in some order and each in some order. -/
structure Filter.IsReordering (filter other : Filter) : Prop where
  inverted : other.inverted = filter.inverted
  patterns : Reordered Pattern.IsReordering filter.patterns other.patterns

theorem Matched.of_forall₂ {α : Type} {R : α → α → Prop} {l k : List α}
    (related : List.Forall₂ R l k) : Matched R l k := by
  induction related with
  | nil => exact ⟨by simp, by simp⟩
  | cons first _ ih => exact (Matched.singleton first).append ih

namespace Reordered

variable {α : Type} {R : α → α → Prop} {l k : List α}

theorem matched (reordered : Reordered R l k) : Matched R l k := by
  obtain ⟨m, perm, related⟩ := reordered
  have first : Matched Eq l m := .of_mem_iff (fun _ => rfl) fun _ => perm.mem_iff
  exact first.trans (.of_forall₂ related) fun _ _ _ same related => same ▸ related

/-- Unlike lists that only have the same members, reordered lists have the same length. -/
theorem eq_singleton_iff (reordered : Reordered R l k) {a : α}
    (agree : ∀ b c, R b c → (c = a ↔ b = a)) : k = [a] ↔ l = [a] := by
  obtain ⟨m, perm, related⟩ := reordered
  constructor
  · rintro rfl
    obtain ⟨b, others, same, none, rfl⟩ := List.forall₂_cons_right_iff.mp related
    obtain rfl := List.forall₂_nil_right_iff.mp none
    rw [← (agree b a same).mp rfl]
    exact List.perm_singleton.mp perm
  · rintro rfl
    obtain rfl := List.singleton_perm.mp perm
    obtain ⟨c, others, same, none, rfl⟩ := List.forall₂_cons_left_iff.mp related
    obtain rfl := List.forall₂_nil_left_iff.mp none
    rw [(agree a c same).mpr rfl]

end Reordered

theorem Group.eq_single_iff {group : Group} {kind : Kind} {mod : Mod} :
    group = Group.ofMods kind [mod] ↔ group.kind = kind ∧ group.mods = [mod] := by
  obtain ⟨_, _, _⟩ := group
  exact Group.mk.injEq .. ▸ Iff.rfl

theorem Group.IsReordering.alike {group other : Group} (same : group.IsReordering other) :
    group.Alike other :=
  ⟨same.kind, fun _ => same.mods.mem_iff.symm⟩

theorem Group.IsReordering.eq_single_iff {group other : Group} (same : group.IsReordering other)
    {kind : Kind} {mod : Mod} :
    other = Group.ofMods kind [mod] ↔ group = Group.ofMods kind [mod] := by
  rw [Group.eq_single_iff, Group.eq_single_iff, same.kind, ← List.perm_singleton,
    ← List.perm_singleton]
  exact and_congr_right fun _ => ⟨same.mods.trans, same.mods.symm.trans⟩

theorem Pattern.IsReordering.alike {pattern other : Pattern} (same : pattern.IsReordering other) :
    pattern.Alike other :=
  ⟨same.inverted, same.groups.matched.mono fun _ _ => Group.IsReordering.alike⟩

/-- Writing groups in another order neither makes nor hides a pattern that requires one modifier
alone. -/
theorem Pattern.IsReordering.eq_requiring_iff {pattern other : Pattern}
    (same : pattern.IsReordering other) {mod : Mod} :
    other = requiring mod ↔ pattern = requiring mod := by
  obtain ⟨groups, inverted⟩ := pattern
  obtain ⟨others, _⟩ := other
  obtain rfl := same.inverted
  have single : others = [Group.ofMods .required [mod]] ↔ groups = [Group.ofMods .required [mod]] :=
    same.groups.eq_singleton_iff fun _ _ same => same.eq_single_iff
  rw [requiring, Pattern.mk.injEq, Pattern.mk.injEq, single]

namespace Filter.IsReordering

variable {filter other : Filter}

theorem alike (same : filter.IsReordering other) : filter.Alike other :=
  ⟨same.inverted, same.patterns.matched.mono fun _ _ => Pattern.IsReordering.alike⟩

/-- No other order of writing makes `+NM` of a filter. -/
theorem eq_onlyNoMod_iff (same : filter.IsReordering other) :
    other = onlyNoMod ↔ filter = onlyNoMod := by
  obtain ⟨patterns, inverted⟩ := filter
  obtain ⟨others, _⟩ := other
  obtain rfl := same.inverted
  have single : others = [Pattern.requiring Mod.noMod] ↔ patterns = [Pattern.requiring Mod.noMod] :=
    same.patterns.eq_singleton_iff fun _ _ same => same.eq_requiring_iff
  rw [onlyNoMod, Filter.mk.injEq, Filter.mk.injEq, single]

/-- The pairs of synonyms may overlap, since both filters go through them in the same order. -/
theorem alike_apply (same : filter.IsReordering other) (rules : Rules) :
    (rules.apply filter).Alike (rules.apply other) := by
  have merged : (Rules.interchangeAll rules.synonyms filter).Alike
      (Rules.interchangeAll rules.synonyms other) :=
    Rules.renamed_interchangeAll (fun _ _ => ⟨rfl, rfl⟩) same.alike
  refine Rules.alike_apply rfl rfl merged ?_
  rw [Rules.interchangeAll_eq_onlyNoMod_iff, Rules.interchangeAll_eq_onlyNoMod_iff,
    same.eq_onlyNoMod_iff]

end Filter.IsReordering

/-- Alike filters judge candidates with the same applied modifiers in the same way. -/
theorem Filter.Alike.accepts_eq_of_appliedSet_eq {filter other : Filter}
    (alike : filter.Alike other) {candidate shuffled : List Mod}
    (applied : appliedSet shuffled = appliedSet candidate) :
    other.accepts shuffled = filter.accepts candidate := by
  have renamed := Renamed.accepts_eq alike rfl shuffled
  rw [Equiv.coe_refl, List.map_id] at renamed
  rw [renamed]
  refine accepts_congr fun pattern _ => ?_
  rw [Pattern.meaning, Pattern.meaning, applied]

/-- The order of writing makes no difference. Filters that differ only in the order of their
patterns, groups and modifiers have the same outlook, and they judge candidates with the same
applied modifiers in the same way; so do the filters that any rules make of them. -/
theorem writing_order_irrelevant {filter other : Filter} (same : filter.IsReordering other)
    (rules : Rules) {candidate shuffled : List Mod}
    (applied : appliedSet shuffled = appliedSet candidate) :
    (other.outlook = filter.outlook ∧ other.accepts shuffled = filter.accepts candidate) ∧
      (rules.apply other).outlook = (rules.apply filter).outlook ∧
      (rules.apply other).accepts shuffled = (rules.apply filter).accepts candidate := by
  have alike := same.alike
  have alikeApplied := same.alike_apply rules
  exact ⟨⟨alike.outlook_eq, alike.accepts_eq_of_appliedSet_eq applied⟩,
    alikeApplied.outlook_eq, alikeApplied.accepts_eq_of_appliedSet_eq applied⟩

/-- `+HD[DTHR],^{EZFL}` may as well be written `+^{FLEZ},[HRDT]HD`. Under rules that make `NC` a
synonym of both `DT` and `HR` the images differ, but both take `CL` with `HD` and `NC`. -/
theorem writing_order_irrelevant_under_overlapping_pairs :
    let hidden : Mod := ⟨['H', 'D']⟩
    let doubleTime : Mod := ⟨['D', 'T']⟩
    let nightcore : Mod := ⟨['N', 'C']⟩
    let hardRock : Mod := ⟨['H', 'R']⟩
    let easy : Mod := ⟨['E', 'Z']⟩
    let flashlight : Mod := ⟨['F', 'L']⟩
    let filter : Filter :=
      ⟨[⟨[Group.ofMods .required [hidden], Group.ofMods .exclusive [doubleTime, hardRock]], false⟩,
        ⟨[Group.ofMods .prohibited [easy, flashlight]], true⟩], false⟩
    let other : Filter :=
      ⟨[⟨[Group.ofMods .prohibited [flashlight, easy]], true⟩,
        ⟨[Group.ofMods .exclusive [hardRock, doubleTime], Group.ofMods .required [hidden]], false⟩],
        false⟩
    let rules : Rules :=
      { allowLegacy := true, synonyms := [(doubleTime, nightcore), (nightcore, hardRock)] }
    let candidate : List Mod := [hidden, nightcore, Mod.classic]
    let shuffled : List Mod := [Mod.classic, Mod.noMod, nightcore, hidden]
    filter.IsReordering other ∧ appliedSet shuffled = appliedSet candidate ∧
      ((other.outlook = filter.outlook ∧ other.accepts shuffled = filter.accepts candidate) ∧
        (rules.apply other).outlook = (rules.apply filter).outlook ∧
        (rules.apply other).accepts shuffled = (rules.apply filter).accepts candidate) ∧
      rules.apply other ≠ rules.apply filter ∧
      (rules.apply filter).outlook = .undecided ∧
      (rules.apply filter).accepts candidate = true := by
  intro hidden doubleTime nightcore hardRock easy flashlight filter other rules candidate shuffled
  have choice : (Group.ofMods .exclusive [doubleTime, hardRock]).IsReordering
      (Group.ofMods .exclusive [hardRock, doubleTime]) := ⟨rfl, by decide⟩
  have ban : (Group.ofMods .prohibited [easy, flashlight]).IsReordering
      (Group.ofMods .prohibited [flashlight, easy]) := ⟨rfl, by decide⟩
  have demand : (Group.ofMods .required [hidden]).IsReordering (Group.ofMods .required [hidden]) :=
    ⟨rfl, .refl _⟩
  have same : filter.IsReordering other :=
    ⟨rfl, _, .swap .., .cons ⟨rfl, _, .refl _, .cons ban .nil⟩
      (.cons ⟨rfl, _, .swap .., .cons choice (.cons demand .nil)⟩ .nil)⟩
  have applied : appliedSet shuffled = appliedSet candidate := by decide
  exact ⟨same, applied, writing_order_irrelevant same rules applied, by decide, by decide,
    by decide⟩

end ScoreSieve
