import Mathlib.Logic.Equiv.Basic
import ScoreSieve.Proofs.Meaning

namespace ScoreSieve

/-- Holds if each member of either list has a partner in the other one. -/
structure Matched {α β : Type} (R : α → β → Prop) (l : List α) (k : List β) : Prop where
  left : ∀ a ∈ l, ∃ b ∈ k, R a b
  right : ∀ b ∈ k, ∃ a ∈ l, R a b

namespace Matched

variable {α β γ δ : Type} {R : α → β → Prop} {S : γ → δ → Prop} {l : List α} {k : List β}

theorem flip (matched : Matched R l k) : Matched (fun b a => R a b) k l :=
  ⟨matched.right, matched.left⟩

theorem singleton {a : α} {b : β} (related : R a b) : Matched R [a] [b] := by
  constructor <;> simpa using related

theorem exists_iff (matched : Matched R l k) {p : α → Prop} {q : β → Prop}
    (agree : ∀ a ∈ l, ∀ b, R a b → (q b ↔ p a)) : (∃ b ∈ k, q b) ↔ ∃ a ∈ l, p a := by
  constructor
  · rintro ⟨b, inRight, found⟩
    obtain ⟨a, inLeft, related⟩ := matched.right b inRight
    exact ⟨a, inLeft, (agree a inLeft b related).mp found⟩
  · rintro ⟨a, inLeft, found⟩
    obtain ⟨b, inRight, related⟩ := matched.left a inLeft
    exact ⟨b, inRight, (agree a inLeft b related).mpr found⟩

theorem forall_iff (matched : Matched R l k) {p : α → Prop} {q : β → Prop}
    (agree : ∀ a ∈ l, ∀ b, R a b → (q b ↔ p a)) : (∀ b ∈ k, q b) ↔ ∀ a ∈ l, p a := by
  constructor
  · intro all a inLeft
    obtain ⟨b, inRight, related⟩ := matched.left a inLeft
    exact (agree a inLeft b related).mp (all b inRight)
  · intro all b inRight
    obtain ⟨a, inLeft, related⟩ := matched.right b inRight
    exact (agree a inLeft b related).mpr (all a inLeft)

theorem append (first : Matched R l k) {l' : List α} {k' : List β} (second : Matched R l' k') :
    Matched R (l ++ l') (k ++ k') := by
  refine ⟨fun a member => ?_, fun b member => ?_⟩
  · rcases List.mem_append.mp member with inFirst | inSecond
    · obtain ⟨b, inRight, related⟩ := first.left a inFirst
      exact ⟨b, List.mem_append_left _ inRight, related⟩
    · obtain ⟨b, inRight, related⟩ := second.left a inSecond
      exact ⟨b, List.mem_append_right _ inRight, related⟩
  · rcases List.mem_append.mp member with inFirst | inSecond
    · obtain ⟨a, inLeft, related⟩ := first.right b inFirst
      exact ⟨a, List.mem_append_left _ inLeft, related⟩
    · obtain ⟨a, inLeft, related⟩ := second.right b inSecond
      exact ⟨a, List.mem_append_right _ inLeft, related⟩

/-- If a step that may give nothing takes related members to related results, then each result has a
partner. -/
theorem exists_mem_filterMap (matched : Matched R l k) {f : α → Option γ} {g : β → Option δ}
    (keeps : ∀ a b, R a b → ∀ c ∈ f a, ∃ d ∈ g b, S c d) :
    ∀ c ∈ l.filterMap f, ∃ d ∈ k.filterMap g, S c d := by
  intro c member
  obtain ⟨a, inLeft, image⟩ := List.mem_filterMap.mp member
  obtain ⟨b, inRight, related⟩ := matched.left a inLeft
  obtain ⟨d, result, same⟩ := keeps a b related c image
  exact ⟨d, List.mem_filterMap.mpr ⟨b, inRight, result⟩, same⟩

theorem filterMap (matched : Matched R l k) {f : α → Option γ} {g : β → Option δ}
    (left : ∀ a b, R a b → ∀ c ∈ f a, ∃ d ∈ g b, S c d)
    (right : ∀ a b, R a b → ∀ d ∈ g b, ∃ c ∈ f a, S c d) :
    Matched S (l.filterMap f) (k.filterMap g) :=
  ⟨matched.exists_mem_filterMap left,
    matched.flip.exists_mem_filterMap fun b a related => right a b related⟩

theorem map (matched : Matched R l k) {f : α → γ} {g : β → δ}
    (keeps : ∀ a b, R a b → S (f a) (g b)) : Matched S (l.map f) (k.map g) := by
  rw [← List.filterMap_eq_map, ← List.filterMap_eq_map]
  refine matched.filterMap ?_ ?_
  · rintro a b related _ ⟨⟩
    exact ⟨g b, rfl, keeps a b related⟩
  · rintro a b related _ ⟨⟩
    exact ⟨f a, rfl, keeps a b related⟩

/-- Selecting by tests that agree on partners keeps lists matched. -/
theorem filter (matched : Matched R l k) {p : α → Bool} {q : β → Bool}
    (agree : ∀ a b, R a b → q b = p a) : Matched R (l.filter p) (k.filter q) := by
  rw [← List.filterMap_eq_filter, ← List.filterMap_eq_filter]
  refine matched.filterMap ?_ ?_
  · intro a b related c kept
    obtain ⟨rfl, passes⟩ := Option.guard_eq_some_iff.mp kept
    exact ⟨b, Option.guard_eq_some_iff.mpr ⟨rfl, by rwa [agree _ b related]⟩, related⟩
  · intro a b related d kept
    obtain ⟨rfl, passes⟩ := Option.guard_eq_some_iff.mp kept
    exact ⟨a, Option.guard_eq_some_iff.mpr ⟨rfl, by rwa [← agree a _ related]⟩, related⟩

theorem symm (matched : Matched R l k) {T : β → α → Prop} (turn : ∀ a b, R a b → T b a) :
    Matched T k l := by
  refine ⟨fun b member => ?_, fun a member => ?_⟩
  · obtain ⟨a, inLeft, related⟩ := matched.right b member
    exact ⟨a, inLeft, turn a b related⟩
  · obtain ⟨b, inRight, related⟩ := matched.left a member
    exact ⟨b, inRight, turn a b related⟩

theorem trans (first : Matched R l k) {T : β → γ → Prop} {U : α → γ → Prop} {m : List γ}
    (second : Matched T k m) (comp : ∀ a b c, R a b → T b c → U a c) : Matched U l m := by
  refine ⟨fun a member => ?_, fun c member => ?_⟩
  · obtain ⟨b, inMiddle, ab⟩ := first.left a member
    obtain ⟨c, inLast, bc⟩ := second.left b inMiddle
    exact ⟨c, inLast, comp a b c ab bc⟩
  · obtain ⟨b, inMiddle, bc⟩ := second.right c member
    obtain ⟨a, inFirst, ab⟩ := first.right b inMiddle
    exact ⟨a, inFirst, comp a b c ab bc⟩

theorem mono (matched : Matched R l k) {T : α → β → Prop} (weaken : ∀ a b, R a b → T a b) :
    Matched T l k :=
  (matched.symm fun a b => weaken a b).flip

theorem isEmpty_eq (matched : Matched R l k) : k.isEmpty = l.isEmpty := by
  rw [Bool.eq_iff_iff, List.isEmpty_iff, List.isEmpty_iff, List.eq_nil_iff_forall_not_mem,
    List.eq_nil_iff_forall_not_mem]
  exact matched.forall_iff fun _ _ _ _ => Iff.rfl

/-- The partners may be taken to be members. -/
theorem with_members (matched : Matched R l k) :
    Matched (fun a b => R a b ∧ a ∈ l ∧ b ∈ k) l k := by
  refine ⟨fun a inLeft => ?_, fun b inRight => ?_⟩
  · obtain ⟨b, inRight, related⟩ := matched.left a inLeft
    exact ⟨b, inRight, related, inLeft, inRight⟩
  · obtain ⟨a, inLeft, related⟩ := matched.right b inRight
    exact ⟨a, inLeft, related, inLeft, inRight⟩

/-- Lists with the same members are matched, in whatever order and however often they have them. -/
theorem of_mem_iff {T : α → α → Prop} (refl : ∀ a, T a a) {l k : List α}
    (same : ∀ a, a ∈ l ↔ a ∈ k) : Matched T l k :=
  ⟨fun a member => ⟨a, (same a).mp member, refl a⟩,
    fun a member => ⟨a, (same a).mpr member, refl a⟩⟩

theorem map_same {T : γ → γ → Prop} {f g : α → γ} (related : ∀ a ∈ l, T (f a) (g a)) :
    Matched T (l.map f) (l.map g) := by
  refine ⟨fun c member => ?_, fun c member => ?_⟩
  · obtain ⟨a, inList, rfl⟩ := List.mem_map.mp member
    exact ⟨g a, List.mem_map_of_mem inList, related a inList⟩
  · obtain ⟨a, inList, rfl⟩ := List.mem_map.mp member
    exact ⟨f a, List.mem_map_of_mem inList, related a inList⟩

end Matched

/-- Holds if the second group is of the same kind and lists the renamed modifiers. -/
structure Group.Renamed (σ : Equiv.Perm Mod) (group image : Group) : Prop where
  kind : image.kind = group.kind
  mods : ∀ mod, σ mod ∈ image.mods ↔ mod ∈ group.mods

/-- Holds if the groups of both patterns are the same up to the renaming. -/
structure Pattern.Renamed (σ : Equiv.Perm Mod) (pattern image : Pattern) : Prop where
  inverted : image.inverted = pattern.inverted
  groups : Matched (Group.Renamed σ) pattern.groups image.groups

/-- Holds if the patterns of both filters are the same up to the renaming. -/
structure Filter.Renamed (σ : Equiv.Perm Mod) (filter image : Filter) : Prop where
  inverted : image.inverted = filter.inverted
  patterns : Matched (Pattern.Renamed σ) filter.patterns image.patterns

variable {σ τ : Equiv.Perm Mod}

theorem apply_eq_fixed_iff {fixed mod : Mod} (fix : σ fixed = fixed) :
    σ mod = fixed ↔ mod = fixed := by
  nth_rewrite 1 [← fix]
  exact σ.apply_eq_iff_eq

namespace Group.Renamed

variable {group image : Group} (renamed : Group.Renamed σ group image)

include renamed

theorem forall_iff {p q : Mod → Prop} (agree : ∀ mod ∈ group.mods, (q (σ mod) ↔ p mod)) :
    (∀ mod ∈ image.mods, q mod) ↔ ∀ mod ∈ group.mods, p mod := by
  rw [← σ.forall_congr_right]
  refine forall_congr' fun mod => ?_
  rw [renamed.mods]
  exact forall_congr' (agree mod)

theorem perm : image.mods.Perm (group.mods.map σ) := by
  rw [List.perm_ext_iff_of_nodup image.nodup (group.nodup.map σ.injective)]
  intro mod
  rw [← σ.apply_symm_apply mod, renamed.mods, List.mem_map_of_injective σ.injective]

theorem symm : Group.Renamed σ.symm image group where
  kind := renamed.kind.symm
  mods mod := by rw [← renamed.mods, σ.apply_symm_apply]

theorem trans {last : Group} (second : Group.Renamed τ image last) :
    Group.Renamed (σ.trans τ) group last where
  kind := second.kind.trans renamed.kind
  mods mod := (second.mods (σ mod)).trans (renamed.mods mod)

/-- As many modifiers pass a test before the renaming as pass the renamed test afterwards. -/
theorem countP_eq {p q : Mod → Bool} (agree : ∀ mod ∈ group.mods, (q (σ mod) ↔ p mod)) :
    image.mods.countP q = group.mods.countP p := by
  rw [renamed.perm.countP_eq, List.countP_map]
  exact List.countP_congr agree

end Group.Renamed

theorem Group.renamed_refl (group : Group) : group.Renamed (Equiv.refl Mod) group :=
  ⟨rfl, fun _ => Iff.rfl⟩

theorem Pattern.renamed_refl (pattern : Pattern) : pattern.Renamed (Equiv.refl Mod) pattern :=
  ⟨rfl, .of_mem_iff Group.renamed_refl fun _ => Iff.rfl⟩

/-- Holds if the modifiers that count as present are the ones that the groups ask for. -/
def Pattern.IsMet (pattern : Pattern) (mods : Finset Mod) : Prop :=
  (∀ group ∈ pattern.groupsOf .required, ∀ mod ∈ group.mods, mod ∈ mods) ∧
  (∀ group ∈ pattern.groupsOf .exclusive, ¬ pattern.IsDead group →
    group.mods.countP (· ∈ mods) = 1) ∧
  ∀ mod ∈ pattern.modsOf .prohibited, mod ∉ mods

/-- A pattern admits modifiers that meet its groups and, if it asks for something, are all listed by
it. -/
theorem Pattern.admits_iff_isMet {pattern : Pattern} {mods : Finset Mod} :
    pattern.Admits mods ↔
      pattern.IsMet (effective mods) ∧
        (pattern.IsDemanding → ∀ mod ∈ mods, pattern.Lists mods mod) := by
  simp only [admits_def, IsMet, and_assoc]

namespace Pattern.Renamed

variable {pattern image : Pattern} (renamed : Pattern.Renamed σ pattern image)

include renamed

theorem symm : Pattern.Renamed σ.symm image pattern where
  inverted := renamed.inverted.symm
  groups := renamed.groups.symm fun _ _ => Group.Renamed.symm

theorem trans {last : Pattern} (second : Pattern.Renamed τ image last) :
    Pattern.Renamed (σ.trans τ) pattern last where
  inverted := second.inverted.trans renamed.inverted
  groups := renamed.groups.trans second.groups fun _ _ _ first second => first.trans second

theorem groupsOf (kind : Kind) :
    Matched (Group.Renamed σ) (pattern.groupsOf kind) (image.groupsOf kind) :=
  renamed.groups.filter fun group image same => by rw [same.kind]

theorem mem_modsOf_iff {kind : Kind} {mod : Mod} :
    σ mod ∈ image.modsOf kind ↔ mod ∈ pattern.modsOf kind := by
  rw [mem_modsOf, mem_modsOf]
  exact (renamed.groupsOf kind).exists_iff fun _ _ _ same => same.mods mod

/-- A renaming keeps dead groups dead, because it renames what is prohibited as well. -/
theorem isDead_iff {group choice : Group} (same : Group.Renamed σ group choice) :
    image.IsDead choice ↔ pattern.IsDead group :=
  same.forall_iff fun _ _ => renamed.mem_modsOf_iff

theorem isDemanding_iff : image.IsDemanding ↔ pattern.IsDemanding := by
  have empty {group choice : Group} (same : Group.Renamed σ group choice) :
      choice.mods ≠ [] ↔ group.mods ≠ [] := by
    simp only [ne_eq, List.eq_nil_iff_forall_not_mem]
    exact not_congr (same.forall_iff fun _ _ => Iff.rfl)
  refine or_congr ?_ ?_
  · exact (renamed.groupsOf .required).exists_iff fun _ _ _ same => empty same
  · exact (renamed.groupsOf .exclusive).exists_iff fun _ _ _ same =>
      not_congr (renamed.isDead_iff same)

variable {mods renamedMods : Finset Mod}

/-- Only the presence of modifiers that the pattern mentions decides whether it is met. -/
theorem isMet_iff (agree : ∀ mod ∈ pattern.allMods, (σ mod ∈ renamedMods ↔ mod ∈ mods)) :
    image.IsMet renamedMods ↔ pattern.IsMet mods := by
  have inGroup {kind : Kind} {group : Group} (inGroups : group ∈ pattern.groupsOf kind) :
      ∀ mod ∈ group.mods, (σ mod ∈ renamedMods ↔ mod ∈ mods) := fun mod member =>
    agree mod (mem_allMods.mpr ⟨group, (mem_groupsOf.mp inGroups).1, member⟩)
  refine and_congr ?_ (and_congr ?_ ?_)
  · exact (renamed.groupsOf .required).forall_iff fun group inGroups choice same =>
      same.forall_iff (inGroup inGroups)
  · refine (renamed.groupsOf .exclusive).forall_iff fun group inGroups choice same => ?_
    have count : choice.mods.countP (· ∈ renamedMods) = group.mods.countP (· ∈ mods) :=
      same.countP_eq (by simpa using inGroup inGroups)
    rw [renamed.isDead_iff same, count]
  · rw [← σ.forall_congr_right]
    refine forall_congr' fun mod => ?_
    rw [renamed.mem_modsOf_iff]
    refine forall_congr' fun banned => ?_
    obtain ⟨group, inGroups, member⟩ := mem_modsOf.mp banned
    rw [inGroup inGroups mod member]

theorem lists_iff
    (agree : ∀ mod ∈ pattern.allMods,
      (σ mod ∈ effective renamedMods ↔ mod ∈ effective mods)) {mod : Mod} :
    image.Lists renamedMods (σ mod) ↔ pattern.Lists mods mod := by
  refine or_congr ?_ (or_congr ?_ ?_)
  · exact (renamed.groupsOf .required).exists_iff fun _ _ _ same => same.mods mod
  · exact (renamed.groupsOf .exclusive).exists_iff fun _ _ _ same =>
      and_congr (not_congr (renamed.isDead_iff same)) (same.mods mod)
  · refine (renamed.groupsOf .optional).exists_iff fun group inGroups choice same => ?_
    refine and_congr (same.forall_iff fun other member => ?_) (same.mods mod)
    exact agree other (mem_allMods.mpr ⟨group, (mem_groupsOf.mp inGroups).1, member⟩)

end Pattern.Renamed

/-- A renaming that leaves `NM` alone renames what counts as present. -/
theorem mem_effective_renamed (real : σ Mod.noMod = Mod.noMod) {mods renamedMods : Finset Mod}
    (same : ∀ mod, σ mod ∈ renamedMods ↔ mod ∈ mods) (mod : Mod) :
    σ mod ∈ effective renamedMods ↔ mod ∈ effective mods := by
  have empty : renamedMods = ∅ ↔ mods = ∅ := by
    rw [Finset.eq_empty_iff_forall_notMem, Finset.eq_empty_iff_forall_notMem,
      ← σ.forall_congr_right]
    exact forall_congr' fun mod => not_congr (same mod)
  unfold effective
  by_cases none : mods = ∅
  · rw [if_pos none, if_pos (empty.mpr none), Finset.mem_singleton, Finset.mem_singleton,
      apply_eq_fixed_iff real]
  · rw [if_neg none, if_neg (mt empty.mp none), same]

/-- The applied modifiers of a renamed candidate are the renamed ones. -/
theorem mem_appliedSet_map (real : σ Mod.noMod = Mod.noMod) (candidate : List Mod) (mod : Mod) :
    σ mod ∈ appliedSet (candidate.map σ) ↔ mod ∈ appliedSet candidate := by
  rw [mem_appliedSet, mem_appliedSet, List.mem_map_of_injective σ.injective, ne_eq,
    apply_eq_fixed_iff real]

/-- A renamed pattern means for a renamed candidate what the pattern means for the candidate. -/
theorem Pattern.Renamed.meaning_eq {pattern image : Pattern}
    (renamed : Pattern.Renamed σ pattern image) (real : σ Mod.noMod = Mod.noMod)
    (candidate : List Mod) : image.meaning (candidate.map σ) = pattern.meaning candidate := by
  have same := mem_appliedSet_map real candidate
  have agree := mem_effective_renamed real same
  have admits : image.Admits (appliedSet (candidate.map σ)) ↔
      pattern.Admits (appliedSet candidate) := by
    rw [admits_iff_isMet, admits_iff_isMet, renamed.isMet_iff fun mod _ => agree mod,
      renamed.isDemanding_iff, ← σ.forall_congr_right]
    refine and_congr_right fun _ => forall_congr' fun _ => forall_congr' fun mod => ?_
    rw [same, renamed.lists_iff fun mod _ => agree mod]
  simp only [meaning, admits, renamed.inverted]

/-- Filters whose patterns agree with their partners, on a candidate each, agree on these
candidates. -/
theorem Filter.accepts_eq_of_matched {filter image : Filter} {candidate other : List Mod}
    (inverted : image.inverted = filter.inverted)
    (patterns : Matched (fun pattern partner => partner.meaning other = pattern.meaning candidate)
      filter.patterns image.patterns) :
    image.accepts other = filter.accepts candidate := by
  have some : image.patterns.any (·.meaning other) = filter.patterns.any (·.meaning candidate) := by
    rw [Bool.eq_iff_iff, List.any_eq_true, List.any_eq_true]
    exact patterns.exists_iff fun pattern _ partner same => by rw [same]
  simp only [Filter.accepts_eq_any_evaluate, Pattern.evaluate_eq_meaning, patterns.isEmpty_eq, some,
    inverted]

/-- A filter agrees on candidates on which each of its patterns agrees. -/
theorem Filter.accepts_congr {filter : Filter} {candidate other : List Mod}
    (agree : ∀ pattern ∈ filter.patterns, pattern.meaning other = pattern.meaning candidate) :
    filter.accepts other = filter.accepts candidate :=
  accepts_eq_of_matched rfl
    ⟨fun pattern member => ⟨pattern, member, agree pattern member⟩,
      fun pattern member => ⟨pattern, member, agree pattern member⟩⟩

/-- Renamed filters judge renamed candidates alike. -/
theorem Filter.Renamed.accepts_eq {filter image : Filter} (renamed : Filter.Renamed σ filter image)
    (real : σ Mod.noMod = Mod.noMod) (candidate : List Mod) :
    image.accepts (candidate.map σ) = filter.accepts candidate :=
  accepts_eq_of_matched renamed.inverted
    (renamed.patterns.mono fun _ _ same => same.meaning_eq real candidate)

/-- Holds if both groups are of the same kind and list the same modifiers. -/
abbrev Group.Alike : Group → Group → Prop :=
  Group.Renamed (Equiv.refl Mod)

/-- Holds if both patterns have the same groups, in whatever order and however often. -/
abbrev Pattern.Alike : Pattern → Pattern → Prop :=
  Pattern.Renamed (Equiv.refl Mod)

/-- Holds if both filters have the same patterns, in whatever order and however often. -/
abbrev Filter.Alike : Filter → Filter → Prop :=
  Filter.Renamed (Equiv.refl Mod)

/-- What is renamed in the same way is alike. -/
theorem Group.Renamed.alike {group image other : Group} (renamed : Group.Renamed σ group image)
    (same : Group.Renamed σ group other) : image.Alike other := by
  have composed := renamed.symm.trans same
  rwa [Equiv.symm_trans_self] at composed

namespace Filter

theorem alike_refl (filter : Filter) : filter.Alike filter :=
  ⟨rfl, .of_mem_iff Pattern.renamed_refl fun _ => Iff.rfl⟩

theorem Alike.symm {filter image : Filter} (alike : filter.Alike image) : image.Alike filter :=
  ⟨alike.inverted.symm, Matched.symm alike.patterns fun _ _ => Pattern.Renamed.symm⟩

theorem Alike.trans {filter middle last : Filter} (alike : filter.Alike middle)
    (second : middle.Alike last) : filter.Alike last :=
  ⟨second.inverted.trans alike.inverted,
    Matched.trans alike.patterns second.patterns fun _ _ _ first second => first.trans second⟩

/-- Filters are alike if each of their patterns has one in the other that says the same. -/
theorem alike_of_partners {filter image : Filter} (inverted : image.inverted = filter.inverted)
    (left : ∀ pattern ∈ filter.patterns, ∃ other ∈ image.patterns, pattern.Alike other)
    (right : ∀ pattern ∈ image.patterns, ∃ other ∈ filter.patterns, pattern.Alike other) :
    filter.Alike image := by
  refine ⟨inverted, left, fun pattern member => ?_⟩
  obtain ⟨other, inPatterns, alike⟩ := right pattern member
  exact ⟨other, inPatterns, alike.symm⟩

/-- The filters that differ only in order count as one. -/
instance alikeSetoid : Setoid Filter :=
  ⟨Alike, alike_refl, Alike.symm, Alike.trans⟩

end Filter

end ScoreSieve
