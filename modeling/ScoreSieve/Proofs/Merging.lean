import ScoreSieve.Proofs.Synonym

namespace ScoreSieve

variable {a b : Mod}

namespace Group

variable {group : Group}

theorem without_eq_self {excluded : List Mod} (absent : ∀ mod ∈ group.mods, mod ∉ excluded) :
    group.without excluded = group := by
  cases group
  simpa [without] using absent

theorem merge_of_choice (choice : group.kind = .optional ∨ group.kind = .exclusive) :
    group.merge a b = group := by
  rcases choice with kind | kind <;> simp [merge, demands, kind]

/-- A required group loses both modifiers. -/
theorem merge_required (required : group.kind = .required) :
    group.merge a b = group.without [a, b] := by
  by_cases demands : group.demands a b = true
  · rw [merge, if_pos demands]
  · have absent : a ∉ group.mods ∧ b ∉ group.mods := by
      simpa [Group.demands, mentions, required] using demands
    rw [merge, if_neg demands, if_neg (by simp [required]), without_eq_self]
    intro mod member
    simp only [List.mem_cons, List.not_mem_nil, or_false, not_or]
    exact ⟨fun same => absent.1 (same ▸ member), fun same => absent.2 (same ▸ member)⟩

/-- A required group that is merged keeps all but the two modifiers. The demand for them moves to a
group of its own. -/
theorem mem_merge_required (required : group.kind = .required) {mod : Mod} :
    mod ∈ (group.merge a b).mods ↔ mod ∈ group.mods ∧ mod ≠ a ∧ mod ≠ b := by
  simp [merge_required required]

/-- A prohibited group with one of the modifiers gets both. -/
theorem mem_merge_prohibited (prohibited : group.kind = .prohibited) {mod : Mod} :
    mod ∈ (group.merge a b).mods ↔
      mod ∈ group.mods ∨ (a ∈ group.mods ∨ b ∈ group.mods) ∧ (mod = a ∨ mod = b) := by
  by_cases mentions : group.mentions a b = true
  · have named : a ∈ group.mods ∨ b ∈ group.mods := by simpa [Group.mentions] using mentions
    simp [merge, demands, prohibited, mentions, named, or_assoc]
  · have absent : ¬ (a ∈ group.mods ∨ b ∈ group.mods) := by simpa [Group.mentions] using mentions
    simp [merge, demands, prohibited, mentions, absent]

/-- The counterpart of a pattern asks for and prohibits the same modifiers. Only the choices are
exchanged. -/
theorem mirror_of_demand (demand : group.kind = .required ∨ group.kind = .prohibited) :
    group.mirror a b = group := by
  rcases demand with kind | kind <;> simp [mirror, favours, kind]

/-- The renaming that `mirror` amounts to. -/
def turn (group : Group) (a b : Mod) : Equiv.Perm Mod :=
  if group.favours a b then Equiv.swap a b else Equiv.refl Mod

theorem renamed_mirror (group : Group) (a b : Mod) :
    group.Renamed (group.turn a b) (group.mirror a b) := by
  unfold turn mirror
  split
  next favours => exact renamed_exchange favours
  next => exact group.renamed_refl

/-- Where both modifiers or neither of them is present, exchanging them cannot be noticed. -/
theorem turn_apply_mem_iff {mods : List Mod} (both : a ∈ mods ↔ b ∈ mods) (mod : Mod) :
    group.turn a b mod ∈ mods ↔ mod ∈ mods := by
  unfold turn
  split
  · exact swap_apply_mem_iff both mod
  · rfl

end Group

namespace Pattern

variable {pattern : Pattern}

/-- A change that leaves groups of one kind alone leaves alone the groups of that kind. -/
theorem map_groupsOf_eq_self {kind : Kind} {change : Group → Group}
    (unchanged : ∀ group : Group, group.kind = kind → change group = group) :
    (pattern.groupsOf kind).map change = pattern.groupsOf kind :=
  (List.map_congr_left fun group member => unchanged group (mem_groupsOf.mp member).2).trans
    (List.map_id' _)

theorem mem_modsOf_of_map {image : Pattern} {kind : Kind} {change : Group → Group}
    (mapped : image.groupsOf kind = (pattern.groupsOf kind).map change) {mod : Mod} :
    mod ∈ image.modsOf kind ↔ ∃ group ∈ pattern.groupsOf kind, mod ∈ (change group).mods := by
  simp only [mem_modsOf, mapped, List.mem_map, exists_exists_and_eq_and]

/-- Merging adds exclusive groups, and changes the groups of any other kind one by one. -/
theorem groupsOf_merge {kind : Kind} (other : kind ≠ .exclusive) :
    (pattern.merge a b).groupsOf kind = (pattern.groupsOf kind).map (·.merge a b) := by
  have added : ((pattern.groups.filter (·.demands a b)).map
      fun _ => Group.ofMods .exclusive [a, b]).filter (·.kind = kind) = [] := by
    simp [other.symm]
  simp only [groupsOf, merge, List.filter_append, added, List.append_nil, List.filter_map,
    Function.comp_def, Group.kind_merge]

theorem groupsOf_exchange {kind : Kind} (demand : kind = .required ∨ kind = .prohibited) :
    (pattern.exchange a b).groupsOf kind = pattern.groupsOf kind := by
  have kept :
      (pattern.exchange a b).groupsOf kind = (pattern.groupsOf kind).map (·.mirror a b) := by
    simp only [groupsOf, exchange, List.filter_map, Function.comp_def, Group.kind_mirror]
  rw [kept]
  exact map_groupsOf_eq_self fun group same => Group.mirror_of_demand (by rwa [same])

theorem modsOf_exchange {kind : Kind} (demand : kind = .required ∨ kind = .prohibited) :
    (pattern.exchange a b).modsOf kind = pattern.modsOf kind := by
  rw [modsOf, modsOf, groupsOf_exchange demand]

theorem mem_modsOf_merge {kind : Kind} (other : kind ≠ .exclusive) {mod : Mod} :
    mod ∈ (pattern.merge a b).modsOf kind ↔
      ∃ group ∈ pattern.groupsOf kind, mod ∈ (group.merge a b).mods :=
  mem_modsOf_of_map (groupsOf_merge other)

/-- Neither of the two modifiers is required by a merged pattern. -/
theorem mem_modsOf_required_merge {mod : Mod} :
    mod ∈ (pattern.merge a b).modsOf .required ↔
      mod ∈ pattern.modsOf .required ∧ mod ≠ a ∧ mod ≠ b := by
  have merged (group : Group) (member : group ∈ pattern.groupsOf .required) :
      mod ∈ (group.merge a b).mods ↔ mod ∈ group.mods ∧ mod ≠ a ∧ mod ≠ b :=
    Group.mem_merge_required (mem_groupsOf.mp member).2
  rw [mem_modsOf_merge (by decide), mem_modsOf, ← exists_and_right]
  exact exists_congr fun group => and_congr_right (merged group) |>.trans and_assoc.symm

/-- A merged pattern prohibits both of the two modifiers or neither of them. -/
theorem mem_modsOf_prohibited_merge {mod : Mod} :
    mod ∈ (pattern.merge a b).modsOf .prohibited ↔
      mod ∈ pattern.modsOf .prohibited ∨
        (a ∈ pattern.modsOf .prohibited ∨ b ∈ pattern.modsOf .prohibited) ∧
          (mod = a ∨ mod = b) := by
  have merged (group : Group) (member : group ∈ pattern.groupsOf .prohibited) :
      mod ∈ (group.merge a b).mods ↔
        mod ∈ group.mods ∨ (a ∈ group.mods ∨ b ∈ group.mods) ∧ (mod = a ∨ mod = b) :=
    Group.mem_merge_prohibited (mem_groupsOf.mp member).2
  rw [mem_modsOf_merge (by decide), exists_congr fun group => and_congr_right (merged group)]
  simp only [mem_modsOf, and_or_left, exists_or, or_and_right, ← and_assoc, exists_and_right]

end Pattern

/-- Holds if the group makes no difference between requiring, or prohibiting, the two modifiers. -/
structure Group.IsMerged (group : Group) (a b : Mod) : Prop where
  required : group.kind = .required → a ∉ group.mods ∧ b ∉ group.mods
  prohibited : group.kind = .prohibited → (a ∈ group.mods ↔ b ∈ group.mods)

instance (group : Group) (a b : Mod) : Decidable (group.IsMerged a b) :=
  decidable_of_iff
    ((group.kind = .required → a ∉ group.mods ∧ b ∉ group.mods) ∧
      (group.kind = .prohibited → (a ∈ group.mods ↔ b ∈ group.mods)))
    ⟨fun both => ⟨both.1, both.2⟩, fun merged => ⟨merged.required, merged.prohibited⟩⟩

def Pattern.IsMerged (pattern : Pattern) (a b : Mod) : Prop :=
  ∀ group ∈ pattern.groups, group.IsMerged a b

instance (pattern : Pattern) (a b : Mod) : Decidable (pattern.IsMerged a b) :=
  inferInstanceAs (Decidable (∀ group ∈ pattern.groups, _))

namespace Group

variable {group image : Group}

theorem eq_of_mods (kind : image.kind = group.kind) (mods : image.mods = group.mods) :
    image = group := by
  cases group
  cases image
  cases kind
  cases mods
  rfl

theorem mods_ofMods (kind : Kind) {mods : List Mod} (nodup : mods.Nodup) :
    (ofMods kind mods).mods = mods :=
  distinct_eq_self nodup

theorem mods_add (group : Group) (mod : Mod) :
    (group.add mod).mods = group.mods ++ [mod].filter (· ∉ group.mods) := by
  have listed : (group.add mod).mods = distinct (group.mods ++ [mod]) := rfl
  rw [listed, distinct_append, distinct_eq_self group.nodup, distinct_eq_self (by simp)]

theorem add_eq_self {mod : Mod} (present : mod ∈ group.mods) : group.add mod = group :=
  eq_of_mods rfl (by rw [mods_add, List.filter_cons_of_neg (by simpa), List.filter_nil,
    List.append_nil])

theorem IsMerged.demands_eq_false (merged : group.IsMerged a b) : group.demands a b = false := by
  rw [← Bool.not_eq_true]
  intro demands
  simp only [Group.demands, mentions, Bool.and_eq_true, Bool.or_eq_true,
    decide_eq_true_eq] at demands
  obtain ⟨notA, notB⟩ := merged.required demands.1
  exact demands.2.elim notA notB

theorem IsMerged.merge_eq (merged : group.IsMerged a b) : group.merge a b = group := by
  rw [merge, merged.demands_eq_false, if_neg Bool.false_ne_true]
  split
  next both =>
    obtain ⟨prohibited, mentioned⟩ := both
    have same := merged.prohibited prohibited
    have named : a ∈ group.mods ∨ b ∈ group.mods := by simpa [mentions] using mentioned
    have first : a ∈ group.mods := named.elim id same.mpr
    rw [add_eq_self first, add_eq_self (same.mp first)]
  next => rfl

theorem isMerged_merge (group : Group) (a b : Mod) : (group.merge a b).IsMerged a b where
  required kind := by
    rw [kind_merge] at kind
    simp [mem_merge_required kind]
  prohibited kind := by
    rw [kind_merge] at kind
    rw [mem_merge_prohibited kind, mem_merge_prohibited kind]
    tauto

theorem isMerged_of_choice (choice : group.kind = .optional ∨ group.kind = .exclusive) :
    group.IsMerged a b := by
  constructor <;> rcases choice with kind | kind <;> simp [kind]

end Group

namespace Pattern

variable {pattern : Pattern}

theorem IsMerged.merge_eq (merged : pattern.IsMerged a b) : pattern.merge a b = pattern := by
  have same : ∀ group ∈ pattern.groups, group.merge a b = group :=
    fun group member => (merged group member).merge_eq
  have idle : pattern.groups.filter (·.demands a b) = [] :=
    List.filter_eq_nil_iff.mpr fun group member => by simp [(merged group member).demands_eq_false]
  rw [merge, List.map_congr_left same, List.map_id', idle, List.map_nil, List.append_nil]

theorem isMerged_merge (pattern : Pattern) (a b : Mod) : (pattern.merge a b).IsMerged a b := by
  intro group member
  rcases mem_merge.mp member with ⟨origin, _, rfl⟩ | ⟨_, rfl⟩
  · exact origin.isMerged_merge a b
  · exact Group.isMerged_of_choice (.inr rfl)

end Pattern

end ScoreSieve
