import ScoreSieve.Proofs.Legacy
import ScoreSieve.Proofs.RoundTrip
import ScoreSieve.Proofs.Synonym
import ScoreSieve.Proofs.Tidying

namespace ScoreSieve

variable {a b legacy : Mod}

namespace Group

variable {group : Group}

theorem isWritten_of_demands (demands : group.demands a b = true) : group.isWritten = true := by
  simp only [Group.demands, mentions, Bool.and_eq_true, Bool.or_eq_true,
    decide_eq_true_eq] at demands
  exact demands.2.elim isWritten_of_mem isWritten_of_mem

/-- What demands neither modifier loses none. -/
theorem subset_merge (keeps : group.demands a b = false) {mod : Mod} (member : mod ∈ group.mods) :
    mod ∈ (group.merge a b).mods := by
  rw [merge, if_neg (by simp [keeps])]
  split
  · simp [member]
  · exact member

theorem mem_of_mem_merge {mod : Mod} (member : mod ∈ (group.merge a b).mods) :
    mod ∈ group.mods ∨ mod = a ∨ mod = b := by
  unfold merge at member
  split at member
  · exact .inl (mem_without.mp member).1
  split at member
  · simpa [or_assoc] using member
  · exact .inl member

theorem mem_of_mem_mirror {mod : Mod} (member : mod ∈ (group.mirror a b).mods) :
    mod ∈ group.mods ∨ mod = a ∨ mod = b := by
  unfold mirror exchange at member
  split at member
  · split at member
    · rcases mem_swap.mp member with ⟨_, same⟩ | ⟨_, old⟩
      · exact .inr (.inr same)
      · exact .inl old
    · rcases mem_swap.mp member with ⟨_, same⟩ | ⟨_, old⟩
      · exact .inr (.inl same)
      · exact .inl old
  · exact .inl member

theorem swap_ne_nil (some : group.mods ≠ []) : (group.swap a b).mods ≠ [] := by
  obtain ⟨mod, member⟩ := List.exists_mem_of_ne_nil _ some
  exact List.ne_nil_of_mem (mem_ofMods.mpr (List.mem_map_of_mem member))

theorem mirror_ne_nil (some : group.mods ≠ []) : (group.mirror a b).mods ≠ [] := by
  unfold mirror exchange
  split
  · split <;> exact swap_ne_nil some
  · exact some

@[simp] theorem isWritten_mirror (group : Group) (a b : Mod) :
    (group.mirror a b).isWritten = group.isWritten := by
  unfold mirror
  split
  next favours =>
    have bracketed := kind_of_favours favours
    rw [isWritten_of_kind bracketed, isWritten_of_kind (by simpa using bracketed)]
  next => rfl

theorem merge_of_unwritten (unwritten : group.isWritten = false) : group.merge a b = group := by
  obtain ⟨required, empty⟩ := isWritten_eq_false_iff.mp unwritten
  simp [merge, demands, mentions, required, empty]

end Group

namespace Pattern

variable (pattern : Pattern)

/-- Merging two modifiers does not need the groups that a text leaves out. -/
theorem merge_tidy (a b : Mod) : (pattern.tidy.merge a b).tidy = (pattern.merge a b).tidy := by
  have kept : ((pattern.groups.filter Group.isWritten).map (·.merge a b)).filter Group.isWritten =
      (pattern.groups.map (·.merge a b)).filter Group.isWritten := by
    rw [List.filter_map, List.filter_map, List.filter_filter]
    refine congrArg _ (List.filter_congr fun group _ => ?_)
    cases written : group.isWritten with
    | true => simp
    | false => simp [Group.merge_of_unwritten written, written]
  have demanding : (pattern.groups.filter Group.isWritten).filter (·.demands a b) =
      pattern.groups.filter (·.demands a b) := by
    rw [List.filter_filter]
    refine List.filter_congr fun group _ => ?_
    cases demands : group.demands a b with
    | true => simp [Group.isWritten_of_demands demands]
    | false => simp
  simp only [tidy, merge, List.filter_append, kept, demanding]

theorem exchange_tidy (a b : Mod) : pattern.tidy.exchange a b = (pattern.exchange a b).tidy := by
  simp only [exchange, tidy, List.filter_map, Function.comp_def, Group.isWritten_mirror]

/-- A pattern and what its text keeps of it have the same counterpart, if any. -/
theorem counterpart?_tidy (a b : Mod) :
    pattern.tidy.counterpart? a b = (pattern.counterpart? a b).map tidy := by
  have favours : pattern.tidy.groups.any (·.favours a b) = pattern.groups.any (·.favours a b) := by
    rw [tidy, List.any_filter]
    refine congrArg _ (funext fun group => ?_)
    cases favours : group.favours a b with
    | true => simp [Group.isWritten_of_kind (Group.kind_of_favours favours)]
    | false => simp
  have choose (pattern : Pattern) : pattern.counterpart? a b =
      if pattern.groups.any (·.favours a b) then some (pattern.exchange a b) else none := rfl
  rw [choose, choose, favours, exchange_tidy]
  split <;> rfl

end Pattern

/-- Making synonyms of two modifiers gives the same text whether or not the filter went through a
text before. -/
theorem Filter.interchange_tidy (filter : Filter) (a b : Mod) :
    (filter.tidy.interchange a b).tidy = (filter.interchange a b).tidy := by
  unfold interchange
  split
  · exact filter.tidy_tidy
  · simp only [tidy, List.map_append, List.map_map, List.map_filterMap, List.filterMap_map,
      Function.comp_def, Pattern.merge_tidy, ← Pattern.counterpart?_tidy]

/-- What a text can say of a pattern, but for required groups that have been emptied. -/
structure Pattern.IsWritable (pattern : Pattern) : Prop where
  some : pattern.groups ≠ []
  listed : ∀ group ∈ pattern.groups, group.kind ≠ .required → group.mods ≠ []
  codes : ∀ group ∈ pattern.groups, ∀ mod ∈ group.mods, mod.IsCode
  apart : pattern.groups.IsChain Group.Apart
  /-- A required group is emptied by the rewrite that puts a choice in its place. -/
  replaced : ∀ group ∈ pattern.groups, group.isWritten = false → pattern.hasKind .exclusive = true

structure Filter.IsWritable (filter : Filter) : Prop where
  some : filter.patterns ≠ []
  patterns : ∀ pattern ∈ filter.patterns, pattern.IsWritable

/-- Required groups are still apart without the ones that a text leaves out. What follows a required
group is of another kind and hence written. -/
theorem isChain_filter_isWritten {groups : List Group} (apart : groups.IsChain Group.Apart) :
    (groups.filter Group.isWritten).IsChain Group.Apart := by
  induction groups with
  | nil => exact .nil
  | cons group rest ih =>
    have later := ih apart.tail
    cases written : group.isWritten with
    | false => rwa [List.filter_cons_of_neg (by simp [written])]
    | true =>
      rw [List.filter_cons_of_pos written]
      refine later.cons fun next start => ?_
      rintro ⟨required, nextRequired⟩
      cases rest with
      | nil => simp at start
      | cons follower rest =>
        have bracketed : follower.kind ≠ .required := fun same => apart.rel ⟨required, same⟩
        rw [List.filter_cons_of_pos (Group.isWritten_of_kind bracketed)] at start
        obtain rfl := Option.some.inj start
        exact bracketed nextRequired

namespace Pattern

variable {pattern : Pattern}

theorem IsCanonical.isWritable (canonical : pattern.IsCanonical) : pattern.IsWritable where
  some := canonical.some
  listed group member _ := (canonical.groups group member).some
  codes group member := (canonical.groups group member).codes
  apart := canonical.apart
  replaced group member unwritten :=
    absurd (Group.isWritten_eq_false_iff.mp unwritten).2 (canonical.groups group member).some

theorem IsWritable.isCanonical_tidy (writable : pattern.IsWritable) : pattern.tidy.IsCanonical where
  some := by
    obtain ⟨group, member⟩ := List.exists_mem_of_ne_nil _ writable.some
    cases written : group.isWritten with
    | true => exact List.ne_nil_of_mem (List.mem_filter.mpr ⟨member, written⟩)
    | false =>
      have replaced := writable.replaced group member written
      rw [← hasKind_tidy _ (by decide)] at replaced
      obtain ⟨choice, kept, _⟩ := hasKind_iff.mp replaced
      exact List.ne_nil_of_mem kept
  groups group member := by
    obtain ⟨isGroup, written⟩ := List.mem_filter.mp member
    refine ⟨fun empty => ?_, writable.codes group isGroup⟩
    by_cases required : group.kind = .required
    · simp [Group.isWritten, required, empty] at written
    · exact writable.listed group isGroup required empty
  apart := isChain_filter_isWritten writable.apart

/-- A text loses something of a writable pattern only if the pattern has an exclusive group. -/
theorem IsWritable.tidy_eq_or_hasKind (writable : pattern.IsWritable) :
    pattern.tidy = pattern ∨ pattern.hasKind .exclusive = true := by
  by_cases all : ∀ group ∈ pattern.groups, group.isWritten = true
  · left
    rw [tidy, List.filter_eq_self.mpr all]
  · right
    simp only [not_forall, Bool.not_eq_true] at all
    obtain ⟨group, member, unwritten⟩ := all
    exact writable.replaced group member unwritten

theorem isNoModOnly_of_exclusive (exclusive : pattern.hasKind .exclusive = true) :
    pattern.isNoModOnly = false := by
  rw [← Bool.not_eq_true, isNoModOnly_iff]
  intro only
  simp [only, requiring] at exclusive

theorem IsWritable.isNoModOnly_tidy (writable : pattern.IsWritable) :
    pattern.tidy.isNoModOnly = pattern.isNoModOnly := by
  rcases writable.tidy_eq_or_hasKind with same | exclusive
  · rw [same]
  · have inTidy := (pattern.hasKind_tidy (by decide)).trans exclusive
    rw [isNoModOnly_of_exclusive inTidy, isNoModOnly_of_exclusive exclusive]

/-- A writable pattern asks for something exactly if what its text keeps of it does. The exclusive
group that stands in for an emptied one sees to that. -/
theorem IsWritable.isConstrained_tidy (writable : pattern.IsWritable) :
    pattern.tidy.isConstrained = pattern.isConstrained := by
  rcases writable.tidy_eq_or_hasKind with same | exclusive
  · rw [same]
  · have inTidy := (pattern.hasKind_tidy (by decide)).trans exclusive
    rw [isConstrained, isConstrained, inTidy, exclusive, Bool.or_true, Bool.or_true]

/-- The legacy modifier is let in by a writable pattern as it is by the text of that pattern. -/
theorem IsWritable.permit_tidy (writable : pattern.IsWritable) (legacy : Mod) :
    (pattern.tidy.permit legacy).tidy = (pattern.permit legacy).tidy := by
  unfold permit
  rw [writable.isConstrained_tidy]
  split
  · simp only [tidy, List.filter_append, List.filter_filter, Bool.and_self]
  · exact pattern.tidy_tidy

end Pattern

/-- Groups in brackets can be added without any two required groups becoming neighbours. -/
theorem isChain_append_bracketed {groups added : List Group} (apart : groups.IsChain Group.Apart)
    (bracketed : ∀ group ∈ added, group.kind ≠ .required) :
    (groups ++ added).IsChain Group.Apart := by
  refine List.isChain_append.mpr ⟨apart, ?_, ?_⟩
  · have pairs : added.Pairwise Group.Apart :=
      List.pairwise_of_forall_mem_list fun group member _ _ both => bracketed group member both.1
    exact pairs.isChain
  · intro _ _ next start both
    exact bracketed next (List.mem_of_mem_head? start) both.2

theorem isChain_map_of_kind {groups : List Group} {change : Group → Group}
    (kind : ∀ group, (change group).kind = group.kind) (apart : groups.IsChain Group.Apart) :
    (groups.map change).IsChain Group.Apart := by
  have same (group next : Group) : (change group).Apart (change next) ↔ group.Apart next := by
    rw [Group.Apart, Group.Apart, kind, kind]
  simpa only [List.isChain_map, same] using apart

namespace Pattern

variable {pattern : Pattern}

theorem hasKind_of_forall {image : Pattern} {kind : Kind}
    (kinds : ∀ group ∈ pattern.groups, ∃ other ∈ image.groups, other.kind = group.kind)
    (some : pattern.hasKind kind = true) : image.hasKind kind = true := by
  obtain ⟨group, isGroup, rfl⟩ := hasKind_iff.mp some
  exact hasKind_iff.mpr (kinds group isGroup)

theorem isWritable_requiring {mod : Mod} (code : mod.IsCode) : (requiring mod).IsWritable := by
  refine IsCanonical.isWritable ⟨List.cons_ne_nil _ _, ?_, List.isChain_singleton _⟩
  have single : (Group.ofMods .required [mod]).mods = [mod] := rfl
  simpa [requiring] using ⟨by simp [single], by simpa [single] using code⟩

theorem IsWritable.permit (writable : pattern.IsWritable) (code : legacy.IsCode) :
    (pattern.permit legacy).IsWritable := by
  unfold Pattern.permit
  split
  · have single : (Group.ofMods .optional [legacy]).mods = [legacy] := rfl
    refine ⟨by simp, ?_, ?_, ?_, ?_⟩
    · simpa [or_imp, forall_and, single] using writable.listed
    · simpa [or_imp, forall_and, single, code] using writable.codes
    · exact isChain_append_bracketed writable.apart (by simp)
    · intro group member unwritten
      rcases List.mem_append.mp member with old | added
      · have replaced := writable.replaced group old unwritten
        exact hasKind_of_forall (fun _ isGroup => ⟨_, List.mem_append_left _ isGroup, rfl⟩) replaced
      · rw [List.mem_singleton.mp added] at unwritten
        exact absurd unwritten (by simp [Group.isWritten])
  · exact writable

/-- Merging two modifiers keeps a pattern writable. If it empties a required group, it adds an
exclusive one. -/
theorem IsWritable.merge (writable : pattern.IsWritable) (codeA : a.IsCode) (codeB : b.IsCode) :
    (pattern.merge a b).IsWritable where
  some := by simp [Pattern.merge, writable.some]
  listed group member bracketed := by
    rcases mem_merge.mp member with ⟨origin, isGroup, rfl⟩ | ⟨_, rfl⟩
    · rw [Group.kind_merge] at bracketed
      have keeps : origin.demands a b = false := by simp [Group.demands, bracketed]
      obtain ⟨mod, listed⟩ := List.exists_mem_of_ne_nil _ (writable.listed origin isGroup bracketed)
      exact List.ne_nil_of_mem (Group.subset_merge keeps listed)
    · exact List.ne_nil_of_mem (Group.mem_ofMods.mpr List.mem_cons_self)
  codes group member mod listed := by
    rcases mem_merge.mp member with ⟨origin, isGroup, rfl⟩ | ⟨_, rfl⟩
    · rcases Group.mem_of_mem_merge listed with before | rfl | rfl
      · exact writable.codes origin isGroup mod before
      · exact codeA
      · exact codeB
    · rw [Group.mem_ofMods, List.mem_pair] at listed
      rcases listed with rfl | rfl
      · exact codeA
      · exact codeB
  apart := by
    refine isChain_append_bracketed (isChain_map_of_kind (Group.kind_merge · a b) writable.apart) ?_
    intro group added
    obtain ⟨_, _, rfl⟩ := List.mem_map.mp added
    simp
  replaced group member unwritten := by
    rcases mem_merge.mp member with ⟨origin, isGroup, rfl⟩ | ⟨_, rfl⟩
    · cases demands : origin.demands a b with
      | true => exact hasKind_iff.mpr ⟨_, choice_mem_merge isGroup demands, rfl⟩
      | false =>
        obtain ⟨required, empty⟩ := Group.isWritten_eq_false_iff.mp unwritten
        have emptied : origin.isWritten = false := by
          rw [Group.isWritten_eq_false_iff, ← Group.kind_merge origin a b]
          refine ⟨required, List.eq_nil_iff_forall_not_mem.mpr fun mod listed => ?_⟩
          exact List.ne_nil_of_mem (Group.subset_merge demands listed) empty
        have kinds : ∀ group ∈ pattern.groups, ∃ other ∈ (pattern.merge a b).groups,
            other.kind = group.kind := fun group isGroup =>
          ⟨group.merge a b, merge_mem_merge isGroup, group.kind_merge a b⟩
        exact hasKind_of_forall kinds (writable.replaced origin isGroup emptied)
    · exact absurd unwritten (by simp [Group.isWritten])

theorem IsWritable.exchange (writable : pattern.IsWritable) (codeA : a.IsCode) (codeB : b.IsCode) :
    (pattern.exchange a b).IsWritable where
  some := by simp [Pattern.exchange, writable.some]
  listed group member bracketed := by
    obtain ⟨origin, isGroup, rfl⟩ := List.mem_map.mp member
    rw [Group.kind_mirror] at bracketed
    exact Group.mirror_ne_nil (writable.listed origin isGroup bracketed)
  codes group member mod listed := by
    obtain ⟨origin, isGroup, rfl⟩ := List.mem_map.mp member
    rcases Group.mem_of_mem_mirror listed with before | rfl | rfl
    · exact writable.codes origin isGroup mod before
    · exact codeA
    · exact codeB
  apart := isChain_map_of_kind (Group.kind_mirror · a b) writable.apart
  replaced group member unwritten := by
    obtain ⟨origin, isGroup, rfl⟩ := List.mem_map.mp member
    rw [Group.isWritten_mirror] at unwritten
    have kinds : ∀ group ∈ pattern.groups, ∃ other ∈ (pattern.exchange a b).groups,
        other.kind = group.kind := fun group isGroup =>
      ⟨group.mirror a b, List.mem_map.mpr ⟨group, isGroup, rfl⟩, group.kind_mirror a b⟩
    exact hasKind_of_forall kinds (writable.replaced origin isGroup unwritten)

end Pattern

namespace Filter

/-- Holds of a rewrite that leaves filters writable and cannot tell a filter from what is read of
its text. -/
structure IsResumable (rewrite : Filter → Filter) : Prop where
  writable : ∀ filter : Filter, filter.IsWritable → (rewrite filter).IsWritable
  tidy : ∀ filter : Filter, filter.IsWritable → (rewrite filter.tidy).tidy = (rewrite filter).tidy

variable {filter : Filter}

theorem IsCanonical.isWritable (canonical : filter.IsCanonical) : filter.IsWritable where
  some := canonical.some
  patterns pattern member := (canonical.patterns pattern member).isWritable

theorem IsWritable.isCanonical_tidy (writable : filter.IsWritable) : filter.tidy.IsCanonical where
  some := by simpa [tidy] using writable.some
  patterns pattern member := by
    obtain ⟨origin, isPattern, rfl⟩ := List.mem_map.mp member
    exact (writable.patterns origin isPattern).isCanonical_tidy

/-- From the text of a writable filter, its tidy form is read. -/
theorem IsWritable.parse_text (writable : filter.IsWritable) :
    Filter.parse filter.text = .ok filter.tidy := by
  rw [← filter.text_tidy]
  exact Filter.parse_text writable.isCanonical_tidy

theorem IsWritable.isNoModOnly_tidy (writable : filter.IsWritable) :
    filter.tidy.isNoModOnly = filter.isNoModOnly := by
  obtain ⟨patterns, inverted⟩ := filter
  match patterns with
  | [] => rfl
  | [pattern] =>
    have only := (writable.patterns pattern List.mem_cons_self).isNoModOnly_tidy
    simp only [isNoModOnly, tidy, List.map_cons, List.map_nil, only, Pattern.inverted_tidy]
  | _ :: _ :: _ => rfl

/-- Letting in the legacy modifier can be resumed after the filter was written and read again. -/
theorem isResumable_allowLegacy (code : legacy.IsCode) : IsResumable (·.allowLegacy legacy) where
  writable filter writable := by
    unfold allowLegacy
    split
    · refine ⟨by simp, fun pattern member => ?_⟩
      rcases List.mem_append.mp member with old | added
      · exact writable.patterns pattern old
      · rw [List.mem_singleton.mp added]
        exact Pattern.isWritable_requiring code
    · refine ⟨by simpa using writable.some, fun pattern member => ?_⟩
      obtain ⟨origin, isPattern, rfl⟩ := List.mem_map.mp member
      exact (writable.patterns origin isPattern).permit code
  tidy filter writable := by
    unfold allowLegacy
    rw [writable.isNoModOnly_tidy]
    split
    · simp only [tidy, List.map_append, List.map_map, Function.comp_def, Pattern.tidy_tidy]
    · simp only [tidy, List.map_map, Function.comp_def]
      congr 1
      exact List.map_congr_left fun pattern member =>
        (writable.patterns pattern member).permit_tidy legacy

/-- Making synonyms of two modifiers can be resumed after the filter was written and read again. -/
theorem isResumable_interchange (codeA : a.IsCode) (codeB : b.IsCode) :
    IsResumable (·.interchange a b) where
  writable filter writable := by
    unfold interchange
    split
    · exact writable
    have merged : ∀ pattern ∈ filter.patterns.map (·.merge a b), pattern.IsWritable := by
      intro pattern member
      obtain ⟨origin, isPattern, rfl⟩ := List.mem_map.mp member
      exact (writable.patterns origin isPattern).merge codeA codeB
    refine ⟨by simp [writable.some], fun pattern member => ?_⟩
    rcases List.mem_append.mp member with inMerged | mirrored
    · exact merged pattern inMerged
    · obtain ⟨original, inMerged, found⟩ := List.mem_filterMap.mp mirrored
      obtain ⟨_, rfl⟩ := Pattern.mem_counterpart?_iff.mp found
      exact (merged original inMerged).exchange codeA codeB
  tidy filter _ := filter.interchange_tidy a b

/-- The filter that keeps what the given one refuses, as written with the other sign. -/
def invert (filter : Filter) : Filter :=
  { filter with inverted := !filter.inverted }

theorem isResumable_invert : IsResumable invert where
  writable _ writable := ⟨writable.some, writable.patterns⟩
  tidy filter _ := by
    simp only [invert, tidy, List.map_map, Function.comp_def, Pattern.tidy_tidy]

theorem isResumable_id : IsResumable fun filter => filter where
  writable _ writable := writable
  tidy filter _ := filter.tidy_tidy

/-- Rewrites that can be resumed can be done one after the other. A reading before the first of them
is no different from one between the two. -/
theorem IsResumable.comp {rewrite next : Filter → Filter} (second : IsResumable next)
    (first : IsResumable rewrite) : IsResumable fun filter => next (rewrite filter) where
  writable filter writable := second.writable _ (first.writable filter writable)
  tidy filter writable := by
    have tidied := first.writable _ writable.isCanonical_tidy.isWritable
    calc (next (rewrite filter.tidy)).tidy
      _ = (next (rewrite filter.tidy).tidy).tidy := (second.tidy _ tidied).symm
      _ = (next (rewrite filter).tidy).tidy := by rw [first.tidy filter writable]
      _ = (next (rewrite filter)).tidy := second.tidy _ (first.writable filter writable)

/-- Any number of rewrites can be resumed if each of them can. -/
theorem isResumable_foldl {σ : Type} {step : σ → Filter → Filter} {steps : List σ}
    (each : ∀ s ∈ steps, IsResumable (step s)) :
    IsResumable fun filter => steps.foldl (fun filter s => step s filter) filter := by
  induction steps with
  | nil => exact isResumable_id
  | cons s steps ih =>
    obtain ⟨first, others⟩ := List.forall_mem_cons.mp each
    exact (ih others).comp first

end Filter

theorem Rules.isResumable_interchangeAll {pairs : List (Mod × Mod)}
    (codes : ∀ pair ∈ pairs, pair.1.IsCode ∧ pair.2.IsCode) :
    Filter.IsResumable (Rules.interchangeAll pairs) :=
  Filter.isResumable_foldl fun pair member =>
    Filter.isResumable_interchange (codes pair member).1 (codes pair member).2

/-- The rules of a profile with coded modifiers can be resumed as a whole. -/
theorem Rules.isResumable_apply {rules : Rules}
    (codes : ∀ pair ∈ rules.synonyms, pair.1.IsCode ∧ pair.2.IsCode)
    (code : rules.allowLegacy = true → rules.legacyMod.IsCode) :
    Filter.IsResumable rules.apply := by
  have merged := isResumable_interchangeAll codes
  by_cases permitted : rules.allowLegacy = true
  · have applied := (Filter.isResumable_allowLegacy (code permitted)).comp merged
    have same : rules.apply =
        fun filter => (interchangeAll rules.synonyms filter).allowLegacy rules.legacyMod :=
      funext fun filter => by rw [apply_eq, if_pos permitted]
    rwa [same]
  · have same : rules.apply = interchangeAll rules.synonyms :=
      funext fun filter => by rw [apply_eq, if_neg permitted]
    rwa [same]

/-- One of the changes that a filter can go through after it has been read. -/
inductive Rewrite
  | interchange (a b : Mod)
  | allowLegacy (legacy : Mod)
  | apply (rules : Rules)
  | invert

namespace Rewrite

def run : Rewrite → Filter → Filter
  | interchange a b => (·.interchange a b)
  | allowLegacy legacy => (·.allowLegacy legacy)
  | apply rules => rules.apply
  | invert => Filter.invert

/-- Holds of a change that only brings in modifiers with two-letter codes. -/
def IsCoded : Rewrite → Prop
  | interchange a b => a.IsCode ∧ b.IsCode
  | allowLegacy legacy => legacy.IsCode
  | apply rules =>
    (∀ pair ∈ rules.synonyms, pair.1.IsCode ∧ pair.2.IsCode) ∧
      (rules.allowLegacy = true → rules.legacyMod.IsCode)
  | invert => True

instance : DecidablePred IsCoded
  | interchange _ _ => inferInstanceAs (Decidable (_ ∧ _))
  | allowLegacy legacy => inferInstanceAs (Decidable legacy.IsCode)
  | apply _ => inferInstanceAs (Decidable (_ ∧ (_ → _)))
  | invert => inferInstanceAs (Decidable True)

theorem IsCoded.isResumable {rewrite : Rewrite} (coded : rewrite.IsCoded) :
    Filter.IsResumable rewrite.run := by
  cases rewrite with
  | interchange a b => exact Filter.isResumable_interchange coded.1 coded.2
  | allowLegacy legacy =>
    have code : legacy.IsCode := coded
    exact Filter.isResumable_allowLegacy code
  | invert => exact Filter.isResumable_invert
  | apply rules => exact Rules.isResumable_apply coded.1 coded.2

end Rewrite

/-- The filter after some changes, from the first to the last. -/
def Filter.rewrite (filter : Filter) (steps : List Rewrite) : Filter :=
  steps.foldl (fun filter step => step.run filter) filter

theorem Filter.isResumable_rewrite {steps : List Rewrite}
    (coded : ∀ step ∈ steps, step.IsCoded) : Filter.IsResumable (·.rewrite steps) :=
  Filter.isResumable_foldl fun step member => (coded step member).isResumable

/-- A filter that has been read can be written and read again between any two changes. Its text is
read as a filter with that text, and whether the changes go on from there or from the filter itself
makes no difference to the text, to the outlook and to the verdicts in the end. -/
theorem reread_between_rewrites {text : List Char} {filter : Filter}
    (read : Filter.parse text = .ok filter) (before after : List Rewrite)
    (coded : ∀ step ∈ before ++ after, step.IsCoded) :
    ∃ reread, Filter.parse (filter.rewrite before).text = .ok reread ∧
      reread.text = (filter.rewrite before).text ∧
      (reread.rewrite after).text = (filter.rewrite (before ++ after)).text ∧
      (reread.rewrite after).outlook = (filter.rewrite (before ++ after)).outlook ∧
      ∀ candidate, (reread.rewrite after).accepts candidate =
        (filter.rewrite (before ++ after)).accepts candidate := by
  obtain ⟨codedBefore, codedAfter⟩ := List.forall_mem_append.mp coded
  have first := (Filter.isCanonical_of_parse read).isWritable
  have writable := (Filter.isResumable_rewrite codedBefore).writable filter first
  have resumed := (Filter.isResumable_rewrite codedAfter).tidy _ writable
  have whole : filter.rewrite (before ++ after) = (filter.rewrite before).rewrite after :=
    List.foldl_append ..
  refine ⟨_, writable.parse_text, Filter.text_tidy _, ?_, ?_, fun candidate => ?_⟩
  · rw [whole, ← Filter.text_tidy, resumed, Filter.text_tidy]
  · rw [whole, ← Filter.outlook_tidy, resumed, Filter.outlook_tidy]
  · rw [whole, ← Filter.accepts_tidy, resumed, Filter.accepts_tidy]

/-- Merging `DT` and `NC` in `+HDDT,^DT(NC)` leaves an empty required group in the second pattern.
The text does not show it, and the rules of a profile come to the same without it. -/
theorem reread_without_emptied_group :
    let doubleTime : Mod := ⟨['D', 'T']⟩
    let nightcore : Mod := ⟨['N', 'C']⟩
    let filter : Filter :=
      ⟨[⟨[Group.ofMods .required [⟨['H', 'D']⟩, doubleTime]], false⟩,
        ⟨[Group.ofMods .required [doubleTime], Group.ofMods .optional [nightcore]], true⟩], false⟩
    let before : List Rewrite := [.interchange doubleTime nightcore]
    let after : List Rewrite := [.apply { allowLegacy := true }, .invert]
    Filter.parse "+hddt,^DT(NC)".toList = .ok filter ∧
      (∀ step ∈ before ++ after, step.IsCoded) ∧
      (filter.rewrite before).text = "+HD[DTNC],^(NC)[DTNC],^(DT)[DTNC]".toList ∧
      Filter.parse (filter.rewrite before).text ≠ .ok (filter.rewrite before) ∧
      ∃ reread, Filter.parse (filter.rewrite before).text = .ok reread ∧
        reread.text = (filter.rewrite before).text ∧
        (reread.rewrite after).text = (filter.rewrite (before ++ after)).text ∧
        (reread.rewrite after).outlook = (filter.rewrite (before ++ after)).outlook ∧
        ∀ candidate, (reread.rewrite after).accepts candidate =
          (filter.rewrite (before ++ after)).accepts candidate := by
  intro doubleTime nightcore filter before after
  have read : Filter.parse "+hddt,^DT(NC)".toList = .ok filter := by decide +kernel
  have coded : ∀ step ∈ before ++ after, step.IsCoded := by decide
  have written : (filter.rewrite before).text = "+HD[DTNC],^(NC)[DTNC],^(DT)[DTNC]".toList := by
    decide
  have other : Filter.parse (filter.rewrite before).text ≠ .ok (filter.rewrite before) := by
    intro kept
    let emptied : Pattern := ⟨[Group.ofMods .required [], Group.ofMods .optional [nightcore],
      Group.ofMods .exclusive [doubleTime, nightcore]], true⟩
    have member : emptied ∈ (filter.rewrite before).patterns := by decide
    have canonical := (Filter.isCanonical_of_parse kept).patterns emptied member
    exact (canonical.groups _ List.mem_cons_self).some rfl
  exact ⟨read, coded, written, other, reread_between_rewrites read before after coded⟩

end ScoreSieve
