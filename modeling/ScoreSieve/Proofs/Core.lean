import ScoreSieve.Proofs.Legacy
import ScoreSieve.Proofs.Merging

namespace ScoreSieve

variable {a b mod : Mod}

namespace Group

/-- The group without the modifier if it is a required one. -/
def unrequire (group : Group) (mod : Mod) : Group :=
  if group.kind = .required then group.without [mod] else group

variable {group : Group}

@[simp] theorem kind_unrequire (group : Group) (mod : Mod) :
    (group.unrequire mod).kind = group.kind := by
  unfold unrequire
  split <;> rfl

theorem unrequire_of_kind (other : group.kind ≠ .required) : group.unrequire mod = group :=
  if_neg other

theorem unrequire_of_not_mem (absent : mod ∉ group.mods) : group.unrequire mod = group := by
  unfold unrequire
  split
  · refine without_eq_self fun other member => ?_
    rw [List.mem_singleton]
    exact fun same => absent (same ▸ member)
  · rfl

theorem unrequire_unrequire (group : Group) (mod : Mod) :
    (group.unrequire mod).unrequire mod = group.unrequire mod := by
  by_cases required : group.kind = .required
  · simp only [unrequire, required, if_true, without, List.filter_filter, Bool.and_self]
  · simp only [unrequire_of_kind required]

/-- Merging two modifiers comes to the same whether or not a third one was taken out of the demands
before. -/
theorem unrequire_merge_unrequire (group : Group) (mod a b : Mod) :
    ((group.unrequire mod).merge a b).unrequire mod = (group.merge a b).unrequire mod := by
  by_cases required : group.kind = .required
  · simp only [unrequire, required, if_true, merge_required, without, List.filter_filter,
      Bool.and_comm, Bool.and_self_left]
  · rw [unrequire_of_kind required]

theorem unrequire_mirror_unrequire (group : Group) (mod a b : Mod) :
    ((group.unrequire mod).mirror a b).unrequire mod = (group.mirror a b).unrequire mod := by
  by_cases required : group.kind = .required
  · rw [mirror_of_demand (.inl required), mirror_of_demand (.inl (by simp [required]))]
    exact group.unrequire_unrequire mod
  · rw [unrequire_of_kind required]

theorem demands_unrequire (notFirst : a ≠ mod) (notSecond : b ≠ mod) :
    (group.unrequire mod).demands a b = group.demands a b := by
  by_cases required : group.kind = .required
  · simp [demands, mentions, unrequire, required, notFirst, notSecond]
  · rw [unrequire_of_kind required]

end Group

namespace Pattern

/-- The pattern without the modifier in its required groups. -/
def unrequire (pattern : Pattern) (mod : Mod) : Pattern :=
  { pattern with groups := pattern.groups.map (·.unrequire mod) }

/-- Holds unless the group is an exclusive one that is dead. -/
def isLive (pattern : Pattern) (group : Group) : Bool :=
  group.kind ≠ .exclusive || !decide (pattern.IsDead group)

/-- The groups that are live in the pattern, without the modifier where they require it. -/
def coreOf (pattern : Pattern) (mod : Mod) (groups : List Group) : List Group :=
  (groups.filter pattern.isLive).map (·.unrequire mod)

/-- The pattern without dead exclusive groups and without the modifier in its required groups. -/
def core (pattern : Pattern) (mod : Mod) : Pattern :=
  { pattern with groups := pattern.coreOf mod pattern.groups }

variable {pattern : Pattern}

theorem isLive_of_kind {group : Group} (other : group.kind ≠ .exclusive) :
    pattern.isLive group = true := by
  simp [isLive, other]

theorem isLive_eq_false_iff {group : Group} :
    pattern.isLive group = false ↔ group.kind = .exclusive ∧ pattern.IsDead group := by
  simp [isLive]

/-- Which groups are dead depends on the prohibited modifiers only. -/
theorem isLive_congr {other : Pattern}
    (same : ∀ mod, mod ∈ other.modsOf .prohibited ↔ mod ∈ pattern.modsOf .prohibited) :
    other.isLive = pattern.isLive := by
  funext group
  have dead : other.IsDead group ↔ pattern.IsDead group :=
    forall_congr' fun mod => forall_congr' fun _ => same mod
  simp only [isLive, dead]

theorem isLive_unrequire (group : Group) :
    pattern.isLive (group.unrequire mod) = pattern.isLive group := by
  by_cases required : group.kind = .required
  · rw [isLive_of_kind (by simp [required]), isLive_of_kind (by simp [required])]
  · rw [Group.unrequire_of_kind required]

theorem groupsOf_core {kind : Kind} (other : kind ≠ .exclusive) :
    (pattern.core mod).groupsOf kind = (pattern.groupsOf kind).map (·.unrequire mod) := by
  simp only [groupsOf, core, coreOf, List.filter_map, List.filter_filter, Function.comp_def,
    Group.kind_unrequire]
  refine congrArg _ (List.filter_congr fun group _ => ?_)
  by_cases same : group.kind = kind
  · simp [same, isLive_of_kind (same ▸ other)]
  · simp [same]

theorem map_unrequire_prohibited (pattern : Pattern) (mod : Mod) :
    (pattern.groupsOf .prohibited).map (·.unrequire mod) = pattern.groupsOf .prohibited :=
  map_groupsOf_eq_self fun _ same => Group.unrequire_of_kind (by simp [same])

theorem modsOf_prohibited_core (pattern : Pattern) (mod : Mod) :
    (pattern.core mod).modsOf .prohibited = pattern.modsOf .prohibited := by
  rw [modsOf, groupsOf_core (by decide), map_unrequire_prohibited, modsOf]

/-- The core of some groups depends on the pattern only by the modifiers that it prohibits. -/
theorem coreOf_congr {other : Pattern}
    (same : ∀ mod, mod ∈ other.modsOf .prohibited ↔ mod ∈ pattern.modsOf .prohibited) :
    other.coreOf mod = pattern.coreOf mod := by
  funext groups
  rw [coreOf, coreOf, isLive_congr same]

theorem coreOf_append (first second : List Group) :
    pattern.coreOf mod (first ++ second) =
      pattern.coreOf mod first ++ pattern.coreOf mod second := by
  rw [coreOf, List.filter_append, List.map_append, coreOf, coreOf]

/-- A change that revives no dead group makes groups with the same core of the core of some groups
as of all of them. -/
theorem coreOf_map_coreOf {later : Pattern} {change : Group → Group}
    (kinds : ∀ group, (change group).kind = group.kind)
    (dead : ∀ group, pattern.isLive group = false → later.isLive (change group) = false)
    (again : ∀ group : Group,
      (change (group.unrequire mod)).unrequire mod = (change group).unrequire mod)
    (groups : List Group) :
    later.coreOf mod ((pattern.coreOf mod groups).map change) =
      later.coreOf mod (groups.map change) := by
  have same (group : Group) :
      later.isLive (change (group.unrequire mod)) = later.isLive (change group) := by
    by_cases required : group.kind = .required
    · rw [isLive_of_kind (by simp [kinds, required]), isLive_of_kind (by simp [kinds, required])]
    · rw [Group.unrequire_of_kind required]
  have kept (group : Group) : (later.isLive (change group) && pattern.isLive group) =
      later.isLive (change group) := by
    cases live : pattern.isLive group with
    | true => simp
    | false => simp [dead group live]
  simp only [coreOf, List.map_map, List.filter_map, List.filter_filter, Function.comp_def, same,
    again, kept]

/-- A dead group stays dead when two modifiers are merged, since the prohibition is merged together
with it. -/
theorem isLive_merge_eq_false {group : Group} (dead : pattern.isLive group = false) :
    (pattern.merge a b).isLive (group.merge a b) = false := by
  obtain ⟨kind, banned⟩ := isLive_eq_false_iff.mp dead
  rw [Group.merge_of_choice (.inr kind)]
  exact isLive_eq_false_iff.mpr ⟨kind, fun other member =>
    mem_modsOf_prohibited_merge.mpr (.inl (banned other member))⟩

/-- Where one of the two modifiers is prohibited, the choice between them is dead. -/
theorem isLive_choice_eq_false
    (banned : a ∈ pattern.modsOf .prohibited ∨ b ∈ pattern.modsOf .prohibited) :
    (pattern.merge a b).isLive (Group.ofMods .exclusive [a, b]) = false := by
  refine isLive_eq_false_iff.mpr ⟨rfl, fun other member => ?_⟩
  exact mem_modsOf_prohibited_merge.mpr (.inr ⟨banned, by simpa using member⟩)

/-- The groups of the core that demand one of two other modifiers come from the groups of the
pattern that do. -/
theorem filter_demands_coreOf (notFirst : a ≠ mod) (notSecond : b ≠ mod) (groups : List Group) :
    (pattern.coreOf mod groups).filter (·.demands a b) =
      (groups.filter (·.demands a b)).map (·.unrequire mod) := by
  rw [coreOf, List.filter_map, List.filter_filter]
  refine congrArg _ (List.filter_congr fun group _ => ?_)
  rw [Function.comp_apply, Group.demands_unrequire notFirst notSecond]
  cases demands : group.demands a b with
  | true =>
    have required : group.kind = .required := by
      simp only [Group.demands, Bool.and_eq_true, decide_eq_true_eq] at demands
      exact demands.1
    simp [isLive_of_kind, required]
  | false => simp

/-- The core of a merged pattern depends on the core of the pattern only. -/
theorem core_merge_core (banned : mod ∈ pattern.modsOf .prohibited) :
    ((pattern.core mod).merge a b).core mod = (pattern.merge a b).core mod := by
  have old : (pattern.merge a b).coreOf mod ((pattern.core mod).groups.map (·.merge a b)) =
      (pattern.merge a b).coreOf mod (pattern.groups.map (·.merge a b)) :=
    coreOf_map_coreOf (Group.kind_merge · a b) (fun _ => isLive_merge_eq_false)
      (Group.unrequire_merge_unrequire · mod a b) pattern.groups
  have added : (pattern.merge a b).coreOf mod (((pattern.core mod).groups.filter
        (·.demands a b)).map fun _ => Group.ofMods .exclusive [a, b]) =
      (pattern.merge a b).coreOf mod ((pattern.groups.filter
        (·.demands a b)).map fun _ => Group.ofMods .exclusive [a, b]) := by
    by_cases named : a = mod ∨ b = mod
    · have prohibited : a ∈ pattern.modsOf .prohibited ∨ b ∈ pattern.modsOf .prohibited :=
        named.imp (fun same : a = mod => same ▸ banned) fun same : b = mod => same ▸ banned
      have dead := isLive_choice_eq_false prohibited
      simp only [coreOf, List.filter_map, Function.comp_def, dead, List.filter_false]
    · rw [not_or] at named
      rw [core, filter_demands_coreOf named.1 named.2, List.map_map]
      rfl
  have unfolded (pattern : Pattern) : (pattern.merge a b).core mod =
      ⟨(pattern.merge a b).coreOf mod (pattern.groups.map (·.merge a b)) ++
        (pattern.merge a b).coreOf mod ((pattern.groups.filter (·.demands a b)).map fun _ =>
          Group.ofMods .exclusive [a, b]), pattern.inverted⟩ := by
    rw [core, merge, coreOf_append]
  have same : ((pattern.core mod).merge a b).coreOf mod = (pattern.merge a b).coreOf mod :=
    coreOf_congr fun other => by simp only [mem_modsOf_prohibited_merge, modsOf_prohibited_core]
  rw [unfolded, unfolded, same, old, added]
  rfl

/-- An exchange keeps dead what is dead if it prohibits both modifiers or neither. -/
theorem isLive_mirror {group : Group}
    (both : a ∈ pattern.modsOf .prohibited ↔ b ∈ pattern.modsOf .prohibited) :
    pattern.isLive (group.mirror a b) = pattern.isLive group := by
  have dead : pattern.IsDead (group.mirror a b) ↔ pattern.IsDead group :=
    (group.renamed_mirror a b).forall_iff fun mod _ => Group.turn_apply_mem_iff both mod
  simp only [isLive, Group.kind_mirror, dead]

/-- The core of a pattern in which two modifiers are exchanged depends on its core only, if it
prohibits both of them or neither. -/
theorem core_exchange_core
    (both : a ∈ pattern.modsOf .prohibited ↔ b ∈ pattern.modsOf .prohibited) :
    ((pattern.core mod).exchange a b).core mod = (pattern.exchange a b).core mod := by
  have unfolded (pattern : Pattern) : (pattern.exchange a b).core mod =
      ⟨pattern.coreOf mod (pattern.groups.map (·.mirror a b)), pattern.inverted⟩ := by
    have same : (pattern.exchange a b).coreOf mod = pattern.coreOf mod :=
      coreOf_congr fun other => by rw [modsOf_exchange (.inr rfl)]
    rw [core, same]
    rfl
  have same : (pattern.core mod).coreOf mod = pattern.coreOf mod :=
    coreOf_congr fun other => by rw [modsOf_prohibited_core]
  rw [unfolded, unfolded, same]
  refine congrArg (Pattern.mk · pattern.inverted) ?_
  refine coreOf_map_coreOf (Group.kind_mirror · a b) (fun group dead => ?_)
    (Group.unrequire_mirror_unrequire · mod a b) pattern.groups
  rw [isLive_mirror both, dead]

theorem groupsOf_unrequire {kind : Kind} :
    (pattern.unrequire mod).groupsOf kind = (pattern.groupsOf kind).map (·.unrequire mod) := by
  simp only [groupsOf, unrequire, List.filter_map, Function.comp_def, Group.kind_unrequire]

theorem modsOf_prohibited_unrequire (pattern : Pattern) (mod : Mod) :
    (pattern.unrequire mod).modsOf .prohibited = pattern.modsOf .prohibited := by
  rw [modsOf, groupsOf_unrequire, map_unrequire_prohibited, modsOf]

theorem core_unrequire (pattern : Pattern) (mod : Mod) :
    (pattern.unrequire mod).core mod = pattern.core mod := by
  have same : (pattern.unrequire mod).coreOf mod = pattern.coreOf mod :=
    coreOf_congr fun other => by rw [modsOf_prohibited_unrequire]
  rw [core, same, core]
  simp only [unrequire, coreOf, List.filter_map, List.map_map, Function.comp_def, isLive_unrequire,
    Group.unrequire_unrequire]

/-- Holds if both patterns prohibit the modifier and their cores are the same. -/
structure SameCore (mod : Mod) (pattern other : Pattern) : Prop where
  core : pattern.core mod = other.core mod
  left : mod ∈ pattern.modsOf .prohibited
  right : mod ∈ other.modsOf .prohibited

namespace SameCore

variable {other : Pattern} (same : SameCore mod pattern other)

include same

theorem merge : SameCore mod (pattern.merge a b) (other.merge a b) where
  core := by rw [← core_merge_core same.left, same.core, core_merge_core same.right]
  left := mem_modsOf_prohibited_merge.mpr (.inl same.left)
  right := mem_modsOf_prohibited_merge.mpr (.inl same.right)

theorem exchange_merge :
    SameCore mod ((pattern.merge a b).exchange a b) ((other.merge a b).exchange a b) where
  core := by
    have both (pattern : Pattern) : a ∈ (pattern.merge a b).modsOf .prohibited ↔
        b ∈ (pattern.merge a b).modsOf .prohibited := by
      simp only [mem_modsOf_prohibited_merge]
      tauto
    rw [← core_exchange_core (both pattern), same.merge.core, core_exchange_core (both other)]
  left := by
    rw [modsOf_exchange (.inr rfl)]
    exact same.merge.left
  right := by
    rw [modsOf_exchange (.inr rfl)]
    exact same.merge.right

end SameCore

theorem groupsOf_core_of_unrequired (unrequired : mod ∉ pattern.modsOf .required) {kind : Kind}
    (other : kind ≠ .exclusive) : (pattern.core mod).groupsOf kind = pattern.groupsOf kind := by
  have unchanged : ∀ group ∈ pattern.groupsOf kind, group.unrequire mod = group := by
    intro group member
    by_cases required : kind = .required
    · refine Group.unrequire_of_not_mem fun listed => unrequired ?_
      exact mem_modsOf.mpr ⟨group, required ▸ member, listed⟩
    · exact Group.unrequire_of_kind (by rwa [(mem_groupsOf.mp member).2])
  rw [groupsOf_core other, List.map_congr_left unchanged, List.map_id']

/-- The exclusive groups of the core are those that still leave a choice. -/
theorem groupsOf_exclusive_core :
    (pattern.core mod).groupsOf .exclusive =
      (pattern.groupsOf .exclusive).filter fun group => ¬ pattern.IsDead group := by
  have unchanged : ∀ group ∈ pattern.groups.filter (fun group => ¬ pattern.IsDead group ∧
      group.kind = .exclusive), group.unrequire mod = group := by
    intro group member
    simp only [List.mem_filter, decide_eq_true_eq] at member
    exact Group.unrequire_of_kind (by simp [member.2.2])
  have live (group : Group) : (decide (group.kind = .exclusive) && pattern.isLive group) =
      decide (¬ pattern.IsDead group ∧ group.kind = .exclusive) := by
    by_cases kind : group.kind = .exclusive <;> simp [isLive, kind]
  simp only [groupsOf, core, coreOf, List.filter_map, List.filter_filter, Function.comp_def,
    Group.kind_unrequire, live]
  rw [List.map_congr_left unchanged, List.map_id']
  simp only [Bool.decide_and]

theorem isDead_core {group : Group} : (pattern.core mod).IsDead group ↔ pattern.IsDead group := by
  rw [IsDead, modsOf_prohibited_core, IsDead]

variable {mods : Finset Mod}

/-- A pattern that does not require the modifier is met by the same modifiers as its core. -/
theorem isMet_core (unrequired : mod ∉ pattern.modsOf .required) :
    (pattern.core mod).IsMet mods ↔ pattern.IsMet mods := by
  have required := groupsOf_core_of_unrequired unrequired (by decide : Kind.required ≠ .exclusive)
  simp only [IsMet, required, groupsOf_exclusive_core, modsOf_prohibited_core, isDead_core,
    List.mem_filter, decide_eq_true_eq, and_imp, forall_self_imp]

theorem isDemanding_core (unrequired : mod ∉ pattern.modsOf .required) :
    (pattern.core mod).IsDemanding ↔ pattern.IsDemanding := by
  have required := groupsOf_core_of_unrequired unrequired (by decide : Kind.required ≠ .exclusive)
  simp only [IsDemanding, required, groupsOf_exclusive_core, isDead_core, List.mem_filter,
    decide_eq_true_eq, and_assoc, and_self]

theorem lists_core (unrequired : mod ∉ pattern.modsOf .required) {listed : Mod} :
    (pattern.core mod).Lists mods listed ↔ pattern.Lists mods listed := by
  have required := groupsOf_core_of_unrequired unrequired (by decide : Kind.required ≠ .exclusive)
  have optional := groupsOf_core_of_unrequired unrequired (by decide : Kind.optional ≠ .exclusive)
  simp only [Lists, required, optional, groupsOf_exclusive_core, isDead_core, List.mem_filter,
    decide_eq_true_eq, and_assoc, and_self_left]

/-- Once nothing requires the modifier any longer, the core alone decides what a pattern admits. -/
theorem admits_core (unrequired : mod ∉ pattern.modsOf .required) :
    (pattern.core mod).Admits mods ↔ pattern.Admits mods := by
  simp only [admits_iff_isMet, isMet_core unrequired, isDemanding_core unrequired,
    lists_core unrequired]

theorem admits_permit_core (unrequired : mod ∉ pattern.modsOf .required) {legacy : Mod} :
    ((pattern.core mod).permit legacy).Admits mods ↔ (pattern.permit legacy).Admits mods := by
  simp only [admits_permit_iff, isMet_core unrequired, isDemanding_core unrequired,
    lists_core unrequired]

namespace SameCore

variable {other : Pattern} (same : SameCore mod pattern other)
  (unrequired : mod ∉ pattern.modsOf .required) (otherUnrequired : mod ∉ other.modsOf .required)

include same

theorem inverted_eq : other.inverted = pattern.inverted := by
  have cores := congrArg Pattern.inverted same.core
  exact cores.symm

include unrequired otherUnrequired

/-- Patterns with the same core that do not require the modifier give the same verdict on every
candidate. -/
theorem meaning_eq (candidate : List Mod) :
    other.meaning candidate = pattern.meaning candidate := by
  simp only [meaning, ← admits_core unrequired, ← admits_core otherUnrequired, same.core,
    same.inverted_eq]

theorem meaning_permit_eq (legacy : Mod) (candidate : List Mod) :
    (other.permit legacy).meaning candidate = (pattern.permit legacy).meaning candidate := by
  simp only [meaning, ← admits_permit_core unrequired, ← admits_permit_core otherUnrequired,
    same.core, inverted_permit, same.inverted_eq]

end SameCore

end Pattern

end ScoreSieve
