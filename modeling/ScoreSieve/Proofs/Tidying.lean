import ScoreSieve.Filter.Written
import ScoreSieve.Proofs.NormalForm

namespace ScoreSieve

namespace Group

/-- Holds unless the group is a required one without modifiers, which leaves no trace in a text. -/
def isWritten (group : Group) : Bool :=
  group.kind ≠ .required || !group.mods.isEmpty

variable {group : Group}

theorem isWritten_eq_false_iff :
    group.isWritten = false ↔ group.kind = .required ∧ group.mods = [] := by
  simp [isWritten]

theorem isWritten_of_kind (other : group.kind ≠ .required) : group.isWritten = true := by
  simp [isWritten, other]

theorem isWritten_of_mem {mod : Mod} (member : mod ∈ group.mods) : group.isWritten = true := by
  simp [isWritten, List.ne_nil_of_mem member]

theorem text_of_unwritten (unwritten : group.isWritten = false) : group.text = [] := by
  obtain ⟨kind, empty⟩ := isWritten_eq_false_iff.mp unwritten
  rw [text, kind, empty]
  rfl

/-- To collect something from groups that unwritten ones do not have is to collect it from the
written ones. -/
theorem flatMap_filter_isWritten {α : Type} {collect : Group → List α}
    (nothing : ∀ group, group.isWritten = false → collect group = []) (groups : List Group) :
    (groups.filter isWritten).flatMap collect = groups.flatMap collect := by
  induction groups with
  | nil => rfl
  | cons group rest ih =>
    cases written : group.isWritten with
    | true => rw [List.filter_cons_of_pos written, List.flatMap_cons, List.flatMap_cons, ih]
    | false =>
      rw [List.filter_cons_of_neg (by simp [written]), List.flatMap_cons, nothing group written,
        List.nil_append, ih]

end Group

namespace Pattern

/-- The pattern as its text has it, without the required groups that list nothing. -/
def tidy (pattern : Pattern) : Pattern :=
  { pattern with groups := pattern.groups.filter Group.isWritten }

variable (pattern : Pattern)

@[simp] theorem inverted_tidy : pattern.tidy.inverted = pattern.inverted := rfl

theorem tidy_tidy : pattern.tidy.tidy = pattern.tidy := by
  rw [tidy, tidy, List.filter_filter]
  simp only [Bool.and_self]

theorem text_tidy : pattern.tidy.text = pattern.text := by
  rw [text, text, tidy, Group.flatMap_filter_isWritten fun _ => Group.text_of_unwritten]

theorem groupsOf_tidy {kind : Kind} (other : kind ≠ .required) :
    pattern.tidy.groupsOf kind = pattern.groupsOf kind := by
  rw [groupsOf, groupsOf, tidy, List.filter_filter]
  refine List.filter_congr fun group _ => ?_
  by_cases same : group.kind = kind
  · simp [same, Group.isWritten_of_kind (same.symm ▸ other)]
  · simp [same]

theorem hasKind_tidy {kind : Kind} (other : kind ≠ .required) :
    pattern.tidy.hasKind kind = pattern.hasKind kind := by
  have same : (∃ group ∈ pattern.tidy.groupsOf kind, True) ↔
      ∃ group ∈ pattern.groupsOf kind, True := by
    rw [groupsOf_tidy pattern other]
  simpa only [mem_groupsOf, and_true, ← hasKind_iff, ← Bool.eq_iff_iff] using same

/-- No modifier of any kind is lost with the groups that a text leaves out. -/
theorem modsOf_tidy (kind : Kind) : pattern.tidy.modsOf kind = pattern.modsOf kind := by
  have order : pattern.tidy.groupsOf kind = (pattern.groupsOf kind).filter Group.isWritten := by
    rw [groupsOf, groupsOf, tidy, List.filter_filter, List.filter_filter]
    simp only [Bool.and_comm]
  rw [modsOf, modsOf, order, Group.flatMap_filter_isWritten fun _ unwritten =>
    (Group.isWritten_eq_false_iff.mp unwritten).2]

theorem normalize_tidy : pattern.tidy.normalize = pattern.normalize :=
  normalize_congr rfl (pattern.modsOf_tidy .required) fun _ => pattern.groupsOf_tidy

end Pattern

namespace Filter

/-- The filter as its text has it. -/
def tidy (filter : Filter) : Filter :=
  { filter with patterns := filter.patterns.map Pattern.tidy }

variable (filter : Filter)

theorem tidy_tidy : filter.tidy.tidy = filter.tidy := by
  simp only [tidy, List.map_map, Function.comp_def, Pattern.tidy_tidy]

theorem text_tidy : filter.tidy.text = filter.text := by
  have texts : Pattern.text ∘ Pattern.tidy = Pattern.text := funext Pattern.text_tidy
  rw [text, text, tidy, List.map_map, texts]

theorem outlook_tidy : filter.tidy.outlook = filter.outlook :=
  filter.outlook_map_of_normalize_eq Pattern.normalize_tidy

/-- No verdict depends on groups that the text of a filter leaves out. -/
theorem accepts_tidy (candidate : List Mod) :
    filter.tidy.accepts candidate = filter.accepts candidate :=
  filter.accepts_map_of_normalize_eq Pattern.normalize_tidy candidate

end Filter

end ScoreSieve
