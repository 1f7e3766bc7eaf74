import ScoreSieve.Proofs.RoundTrip
import ScoreSieve.Proofs.Tidying

namespace ScoreSieve

namespace Group

/-- The required group that a bare run stands for; an empty run stands for none. -/
def ofRun (run : List Mod) : List Group :=
  if run.isEmpty then [] else [Group.ofMods .required run]

/-- Makes one group of required groups in a row. The run holds what the row has listed so far. -/
def fuse (run : List Mod) : List Group → List Group
  | [] => ofRun run
  | group :: rest =>
    if group.kind = .required then fuse (run ++ group.mods) rest
    else ofRun run ++ group :: fuse [] rest

theorem fuse_required {group : Group} (required : group.kind = .required) (run : List Mod)
    (rest : List Group) : fuse run (group :: rest) = fuse (run ++ group.mods) rest :=
  if_pos required

theorem fuse_bracketed {group : Group} (bracketed : group.kind ≠ .required) (run : List Mod)
    (rest : List Group) : fuse run (group :: rest) = ofRun run ++ group :: fuse [] rest :=
  if_neg bracketed

/-- Fusing leaves no group at all if every group is a required one without modifiers. -/
theorem fuse_eq_nil_iff {run : List Mod} {groups : List Group} :
    fuse run groups = [] ↔ run = [] ∧ ∀ group ∈ groups, group.isWritten = false := by
  induction groups generalizing run with
  | nil => simp [fuse, ofRun]
  | cons group rest ih =>
    by_cases required : group.kind = .required
    · rw [fuse_required required, ih, List.append_eq_nil_iff, and_assoc, List.forall_mem_cons,
        isWritten_eq_false_iff, and_iff_right required]
    · rw [fuse_bracketed required]
      simp [isWritten_of_kind required]

theorem filter_ofRun {kind : Kind} (bracketed : kind ≠ .required) (run : List Mod) :
    (ofRun run).filter (·.kind = kind) = [] := by
  unfold ofRun
  split
  · rfl
  · simp [bracketed.symm]

/-- Fusing leaves alone the groups of the other kinds. -/
theorem filter_fuse {kind : Kind} (bracketed : kind ≠ .required) (run : List Mod)
    (groups : List Group) :
    (fuse run groups).filter (·.kind = kind) = groups.filter (·.kind = kind) := by
  induction groups generalizing run with
  | nil => exact filter_ofRun bracketed run
  | cons group rest ih =>
    by_cases required : group.kind = .required
    · rw [fuse_required required, ih, List.filter_cons_of_neg (by simp [required, bracketed.symm])]
    · rw [fuse_bracketed required, List.filter_append, filter_ofRun bracketed, List.nil_append,
        List.filter_cons, List.filter_cons, ih]

theorem flatMap_mods_ofRun (run : List Mod) :
    ((ofRun run).filter (·.kind = .required)).flatMap Group.mods = distinct run := by
  cases run with
  | nil => rfl
  | cons mod rest => simp [ofRun, ofMods]

/-- Fusing keeps the required modifiers, in the order in which they are first listed. -/
theorem distinct_mods_fuse (run : List Mod) (groups : List Group) :
    distinct (((fuse run groups).filter (·.kind = .required)).flatMap Group.mods) =
      distinct (run ++ (groups.filter (·.kind = .required)).flatMap Group.mods) := by
  induction groups generalizing run with
  | nil =>
    rw [fuse, flatMap_mods_ofRun, distinct_eq_self (nodup_distinct run)]
    simp
  | cons group rest ih =>
    by_cases required : group.kind = .required
    · rw [fuse_required required, ih, List.filter_cons_of_pos (by simp [required]),
        List.flatMap_cons, List.append_assoc]
    · have later := ih []
      rw [List.nil_append] at later
      rw [fuse_bracketed required, List.filter_append, List.filter_cons_of_neg (by simp [required]),
        List.filter_cons_of_neg (by simp [required]), List.flatMap_append, flatMap_mods_ofRun,
        distinct_append, distinct_append, later, distinct_eq_self (nodup_distinct run)]
      simp only [mem_distinct]

end Group

namespace Pattern

/-- The pattern that is read of the text of a pattern, if any is. -/
def fuse (pattern : Pattern) : Pattern :=
  { pattern with groups := Group.fuse [] pattern.groups }

/-- Fusing changes no normal form, since the required modifiers are collected there anyway. -/
theorem normalize_fuse (pattern : Pattern) : pattern.fuse.normalize = pattern.normalize :=
  normalize_congr rfl (Group.distinct_mods_fuse [] pattern.groups)
    fun _ bracketed => Group.filter_fuse bracketed [] pattern.groups

/-- Holds if the text of the pattern can be read: there are no brackets around nothing, and there is
something else than that. -/
structure IsReadable (pattern : Pattern) : Prop where
  some : ∃ group ∈ pattern.groups, group.mods ≠ []
  listed : ∀ group ∈ pattern.groups, group.kind ≠ .required → group.mods ≠ []

end Pattern

namespace Filter

/-- The filter that is read of the text of a filter, if any is. -/
def fuse (filter : Filter) : Filter :=
  { filter with patterns := filter.patterns.map Pattern.fuse }

theorem outlook_fuse (filter : Filter) : filter.fuse.outlook = filter.outlook :=
  filter.outlook_map_of_normalize_eq Pattern.normalize_fuse

theorem accepts_fuse (filter : Filter) (candidate : List Mod) :
    filter.fuse.accepts candidate = filter.accepts candidate :=
  filter.accepts_map_of_normalize_eq Pattern.normalize_fuse candidate

/-- Holds if the text of the filter can be read. -/
structure IsReadable (filter : Filter) : Prop where
  some : filter.patterns ≠ []
  patterns : ∀ pattern ∈ filter.patterns, pattern.IsReadable

end Filter

/-- A run in front of a bracket, or of the end of a text, spells one required group. An empty run
spells none. -/
theorem spellsGroups_ofRun {run : List Mod} (codes : ∀ mod ∈ run, mod.IsCode) {rest : List Char}
    {groups : List Group} (ends : ∀ c ∈ rest.head?, c.isAlpha = false)
    (spelled : SpellsGroups rest groups) :
    SpellsGroups (Mod.concat run ++ rest) (Group.ofRun run ++ groups) := by
  by_cases none : run = []
  · subst none
    exact spelled
  · rw [Group.ofRun, if_neg (by simpa using none)]
    exact .bare (spellsMods_concat none codes) ends spelled

/-- Behind the text of a run, the text of groups spells the groups fused with that run. -/
theorem spellsGroups_fuse {groups : List Group}
    (coded : ∀ group ∈ groups, ∀ mod ∈ group.mods, mod.IsCode)
    (listed : ∀ group ∈ groups, group.kind ≠ .required → group.mods ≠ []) (run : List Mod)
    (codes : ∀ mod ∈ run, mod.IsCode) :
    SpellsGroups (Mod.concat run ++ groups.flatMap Group.text) (Group.fuse run groups) := by
  induction groups generalizing run with
  | nil =>
    have spelled := spellsGroups_ofRun codes (by simp) .nil
    rwa [List.append_nil (Group.ofRun run)] at spelled
  | cons group rest ih =>
    obtain ⟨codedHere, codedLater⟩ := List.forall_mem_cons.mp coded
    obtain ⟨listedHere, listedLater⟩ := List.forall_mem_cons.mp listed
    rw [List.flatMap_cons, Group.text]
    cases brackets : group.kind.brackets? with
    | none =>
      rw [Group.fuse_required (brackets?_eq_none_iff.mp brackets), ← List.append_assoc]
      have both := ih codedLater listedLater _ (List.forall_mem_append.mpr ⟨codes, codedHere⟩)
      rwa [Mod.concat, List.flatMap_append] at both
    | some pair =>
      obtain ⟨opening, closing⟩ := pair
      have bracketed : group.kind ≠ .required := by simp [← brackets?_eq_none_iff, brackets]
      have mods := spellsMods_concat (listedHere bracketed) codedHere
      have here := SpellsGroups.bracketed brackets mods
        (ih codedLater listedLater [] (by simp))
      rw [group.ofMods_mods] at here
      rw [Group.fuse_bracketed bracketed]
      refine spellsGroups_ofRun codes ?_ (by simpa [Mod.concat] using here)
      simp [isAlpha_of_isBracket (isBracket_of_brackets brackets).1]

/-- Holds unless the characters are brackets around nothing. -/
def IsSolid (c d : Char) : Prop :=
  ∀ kind : Kind, kind.brackets? ≠ some (c, d)

theorem isSolid_of_isAlpha {c d : Char} (letter : c.isAlpha = true ∨ d.isAlpha = true) :
    IsSolid c d := by
  intro kind brackets
  obtain ⟨opens, closes⟩ := isBracket_of_brackets brackets
  rcases letter with first | second
  · rw [isBracket_of_isAlpha first] at opens
    exact Bool.false_ne_true opens
  · rw [isBracket_of_isAlpha second] at closes
    exact Bool.false_ne_true closes

theorem isSolid_of_closing {kind : Kind} {opening closing : Char}
    (brackets : kind.brackets? = some (opening, closing)) (c : Char) : IsSolid closing c := by
  intro other same
  cases kind <;> cases brackets <;> cases other <;> simp [Kind.brackets?] at same

theorem SpellsMods.isChain_append {run rest : List Char} {mods : List Mod}
    (spelled : SpellsMods run mods) (later : rest.IsChain IsSolid) :
    (run ++ rest).IsChain IsSolid := by
  refine List.isChain_append.mpr ⟨?_, later, ?_⟩
  · have pairs : run.Pairwise IsSolid := List.pairwise_of_forall_mem_list
      fun c member _ _ => isSolid_of_isAlpha (.inl (spelled.letters c member))
    exact pairs.isChain
  · intro c stop _ _
    exact isSolid_of_isAlpha (.inl (spelled.letters c (List.mem_of_getLast? stop)))

/-- What can be read has no brackets around nothing. -/
theorem SpellsGroups.isChain {body : List Char} {groups : List Group}
    (spelled : SpellsGroups body groups) : body.IsChain IsSolid := by
  induction spelled with
  | nil => exact .nil
  | bare mods _ _ ih => exact mods.isChain_append ih
  | @bracketed kind opening closing run _ _ _ brackets mods _ ih =>
    refine (mods.isChain_append (ih.cons fun c _ => isSolid_of_closing brackets c)).cons ?_
    intro c start
    rw [List.head?_append_of_ne_nil _ mods.ne_nil] at start
    exact isSolid_of_isAlpha (.inr (mods.letters c (List.mem_of_mem_head? start)))

theorem listed_of_spelled {groups read : List Group}
    (spelled : SpellsGroups (groups.flatMap Group.text) read) :
    ∀ group ∈ groups, group.kind ≠ .required → group.mods ≠ [] := by
  intro group member bracketed empty
  cases brackets : group.kind.brackets? with
  | none => exact bracketed (brackets?_eq_none_iff.mp brackets)
  | some pair =>
    obtain ⟨opening, closing⟩ := pair
    have text : group.text = [opening, closing] := by
      rw [Group.text, brackets, empty]
      rfl
    have within : group.text <:+: groups.flatMap Group.text :=
      List.infix_of_mem_flatten (List.mem_map_of_mem member)
    rw [text] at within
    have solid := List.IsChain.infix spelled.isChain within
    exact solid.rel group.kind brackets

/-- A text spells at most one list of groups. -/
theorem SpellsGroups.unique {body : List Char} {groups others : List Group}
    (spelled : SpellsGroups body groups) (other : SpellsGroups body others) : groups = others := by
  have read : readGroups body body = .ok groups := readGroups_of_spelled spelled
  rw [readGroups_of_spelled other] at read
  exact (Except.ok.inj read).symm

/-- The text of groups spells the fused ones, and it spells something only if no brackets are
empty. -/
theorem spellsGroups_text_iff {groups read : List Group}
    (coded : ∀ group ∈ groups, ∀ mod ∈ group.mods, mod.IsCode) :
    SpellsGroups (groups.flatMap Group.text) read ↔
      (∀ group ∈ groups, group.kind ≠ .required → group.mods ≠ []) ∧
        read = Group.fuse [] groups := by
  have fused (listed : ∀ group ∈ groups, group.kind ≠ .required → group.mods ≠ []) :
      SpellsGroups (groups.flatMap Group.text) (Group.fuse [] groups) :=
    spellsGroups_fuse coded listed [] (by simp)
  constructor
  · intro spelled
    have listed := listed_of_spelled spelled
    exact ⟨listed, spelled.unique (fused listed)⟩
  · rintro ⟨listed, rfl⟩
    exact fused listed

theorem Group.chars_text {group : Group} (codes : ∀ mod ∈ group.mods, mod.IsCode) :
    ∀ c ∈ group.text, c.isAlpha = true ∨ isBracket c = true := by
  have run : ∀ c ∈ Mod.concat group.mods, c.isAlpha = true := by
    intro c member
    obtain ⟨mod, inGroup, inMod⟩ := List.mem_flatMap.mp member
    exact isAlpha_of_isUpper ((codes mod inGroup).2 c inMod)
  intro c member
  unfold Group.text at member
  split at member
  next => exact .inl (run c member)
  next opening closing brackets =>
    obtain ⟨opens, closes⟩ := isBracket_of_brackets brackets
    rcases List.mem_append.mp member with first | last
    · rcases List.mem_cons.mp first with rfl | inner
      · exact .inr opens
      · exact .inl (run c inner)
    · obtain rfl := List.mem_singleton.mp last
      exact .inr closes

theorem fuse_ne_nil_iff {groups : List Group}
    (listed : ∀ group ∈ groups, group.kind ≠ .required → group.mods ≠ []) :
    Group.fuse [] groups ≠ [] ↔ ∃ group ∈ groups, group.mods ≠ [] := by
  have unwritten : ∀ group ∈ groups, (group.isWritten = false ↔ group.mods = []) := by
    intro group member
    rw [Group.isWritten_eq_false_iff]
    exact and_iff_right_of_imp fun empty => of_not_not fun bracketed =>
      listed group member bracketed empty
  rw [ne_eq, Group.fuse_eq_nil_iff, and_iff_right rfl, forall₂_congr unwritten]
  simp

namespace Pattern

variable {pattern : Pattern}
  (coded : ∀ group ∈ pattern.groups, ∀ mod ∈ group.mods, mod.IsCode)

include coded

theorem chars_body :
    ∀ c ∈ pattern.groups.flatMap Group.text, c.isAlpha = true ∨ isBracket c = true := by
  intro c member
  obtain ⟨group, inGroups, inText⟩ := List.mem_flatMap.mp member
  exact group.chars_text (coded group inGroups) c inText

theorem chars_text : ∀ c ∈ pattern.text, c.isAlpha = true ∨ isBracket c = true ∨ c = '^' := by
  intro c member
  rcases List.mem_append.mp member with mark | inBody
  · split at mark
    · exact .inr (.inr (List.mem_singleton.mp mark))
    · simp at mark
  · exact (chars_body coded c inBody).imp_right .inl

/-- The inverting mark in front of a pattern is told apart from its groups. -/
theorem parseAt_text (position : Nat) :
    parseAt position pattern.text =
      ofBody position pattern.inverted (pattern.groups.flatMap Group.text) := by
  cases inverted : pattern.inverted with
  | true => simp [text, inverted, parseAt]
  | false =>
    have plain : (pattern.groups.flatMap Group.text).head? ≠ some '^' := by
      intro start
      rcases chars_body coded '^' (List.mem_of_mem_head? start) with letter | bracket
      · simp at letter
      · simp [isBracket] at bracket
    simpa [text, inverted] using parseAt_plain plain position

/-- What is read of the text of a pattern is the pattern with its required groups fused. -/
theorem spellsPattern_text_iff {read : Pattern} :
    SpellsPattern pattern.text read ↔ pattern.IsReadable ∧ read = pattern.fuse := by
  rw [← @parseAt_eq_ok_iff 0, parseAt_text coded, ofBody_eq_ok_iff, spellsGroups_text_iff coded]
  constructor
  · rintro ⟨⟨listed, groups⟩, some, inverted⟩
    rw [groups, fuse_ne_nil_iff listed] at some
    exact ⟨⟨some, listed⟩, by rw [fuse, ← groups, ← inverted]⟩
  · rintro ⟨⟨some, listed⟩, rfl⟩
    exact ⟨⟨listed, rfl⟩, (fuse_ne_nil_iff listed).mpr some, rfl⟩

end Pattern

namespace Filter

variable {filter : Filter} (coded : ∀ mod ∈ filter.allMods, mod.IsCode)

include coded

theorem codes_of_mem {pattern : Pattern} (member : pattern ∈ filter.patterns) :
    ∀ group ∈ pattern.groups, ∀ mod ∈ group.mods, mod.IsCode :=
  fun group inPattern mod inGroup => coded mod
    (mem_allMods.mpr ⟨pattern, member, Pattern.mem_allMods.mpr ⟨group, inPattern, inGroup⟩⟩)

/-- The reader finds the patterns again by the commas between them. -/
theorem parse_text_eq (some : filter.patterns ≠ []) :
    Filter.parse filter.text =
      (readPatterns 0 (filter.patterns.map Pattern.text)).map (⟨·, filter.inverted⟩) := by
  have chars : ∀ piece ∈ filter.patterns.map Pattern.text,
      ∀ c ∈ piece, c.isAlpha = true ∨ isBracket c = true ∨ c = '^' := by
    intro piece member
    obtain ⟨pattern, inPatterns, rfl⟩ := List.mem_map.mp member
    exact pattern.chars_text (codes_of_mem coded inPatterns)
  have split : ([','].intercalate (filter.patterns.map Pattern.text)).splitOn ',' =
      filter.patterns.map Pattern.text :=
    List.splitOn_intercalate _ (fun piece member => comma_not_mem_of_chars (chars piece member))
      (by simpa using some)
  have trimmed : Text.trim filter.text = filter.text := by
    refine Text.trim_eq_self (isTrimmed_of_chars (List.forall_mem_cons.mpr ⟨?_, ?_⟩))
    · split <;> simp
    · exact chars_intercalate chars
  rw [Filter.parse, trimmed, text]
  cases filter.inverted with
  | false => simp only [Bool.false_eq_true, if_false, split]
  | true => simp only [if_true, split]

/-- From the text of a readable filter, the filter with fused groups is read. -/
theorem IsReadable.parse_text (readable : filter.IsReadable) :
    Filter.parse filter.text = .ok filter.fuse := by
  rw [parse_text_eq coded readable.some]
  refine map_eq_ok_iff.mpr ⟨_, readPatterns_eq_ok_iff.mpr ?_, rfl⟩
  rw [List.forall₂_map_left_iff, List.forall₂_map_right_iff, List.forall₂_same]
  exact fun pattern member => (Pattern.spellsPattern_text_iff (codes_of_mem coded member)).mpr
    ⟨readable.patterns pattern member, rfl⟩

/-- Only readable filters have texts that are accepted. -/
theorem isReadable_of_parse_text {reread : Filter} (read : Filter.parse filter.text = .ok reread) :
    filter.IsReadable := by
  have some : filter.patterns ≠ [] := by
    intro none
    have refused : Filter.parse filter.text = .error (.emptyPattern 0) := by
      rw [text, none]
      cases filter.inverted <;> decide +kernel
    simp [refused] at read
  rw [parse_text_eq coded some, map_eq_ok_iff] at read
  obtain ⟨_, spelled, _⟩ := read
  obtain ⟨spelled, _⟩ := exists_spelled (readPatterns_eq_ok_iff.mp spelled)
  refine ⟨some, fun pattern member => ?_⟩
  obtain ⟨_, spells⟩ := spelled pattern.text (List.mem_map_of_mem member)
  exact ((Pattern.spellsPattern_text_iff (codes_of_mem coded member)).mp spells).1

end Filter

/-- The text of a filter of two-letter codes can be read again exactly if it has a pattern, each
pattern a group that lists something, and no brackets are empty. What is read has the normal forms
of the filter, pattern by pattern, and hence its outlooks and its verdicts. -/
theorem parse_text_keeps_normal_forms (filter : Filter)
    (coded : ∀ mod ∈ filter.allMods, mod.IsCode) :
    ((∃ reread, Filter.parse filter.text = .ok reread) ↔ filter.IsReadable) ∧
    ∀ reread, Filter.parse filter.text = .ok reread →
      reread.inverted = filter.inverted ∧
      List.Forall₂ (fun pattern image => image.inverted = pattern.inverted ∧
        image.normalize = pattern.normalize ∧ image.outlook = pattern.outlook)
        filter.patterns reread.patterns ∧
      reread.outlook = filter.outlook ∧
      ∀ candidate, reread.accepts candidate = filter.accepts candidate := by
  refine ⟨⟨?_, ?_⟩, ?_⟩
  · rintro ⟨_, read⟩
    exact Filter.isReadable_of_parse_text coded read
  · exact fun readable => ⟨_, readable.parse_text coded⟩
  · intro reread read
    have fused := (Filter.isReadable_of_parse_text coded read).parse_text coded
    obtain rfl : filter.fuse = reread := Except.ok.inj (fused.symm.trans read)
    refine ⟨rfl, ?_, filter.outlook_fuse, filter.accepts_fuse⟩
    rw [Filter.fuse, List.forall₂_map_right_iff, List.forall₂_same]
    intro pattern _
    have same := pattern.normalize_fuse
    exact ⟨rfl, same, Pattern.outlook_eq_of_normalize_eq same⟩

/-- In `-^HDDTHD{EZ}` two required groups are joined and two empty ones are gone. What is read of it
is another filter, and it comes to the same. -/
theorem parse_text_keeps_normal_forms_of_joined_groups :
    let hidden : Mod := ⟨['H', 'D']⟩
    let doubleTime : Mod := ⟨['D', 'T']⟩
    let easy : Mod := ⟨['E', 'Z']⟩
    let filter : Filter :=
      ⟨[⟨[Group.ofMods .required [hidden], Group.ofMods .required [],
          Group.ofMods .required [doubleTime, hidden], Group.ofMods .prohibited [easy],
          Group.ofMods .required []], true⟩], true⟩
    let reread : Filter :=
      ⟨[⟨[Group.ofMods .required [hidden, doubleTime], Group.ofMods .prohibited [easy]], true⟩],
        true⟩
    (∀ mod ∈ filter.allMods, mod.IsCode) ∧ filter.text = "-^HDDTHD{EZ}".toList ∧
      Filter.parse filter.text = .ok reread ∧ reread ≠ filter ∧ filter.IsReadable ∧
      reread.inverted = filter.inverted ∧
      List.Forall₂ (fun pattern image => image.inverted = pattern.inverted ∧
        image.normalize = pattern.normalize ∧ image.outlook = pattern.outlook)
        filter.patterns reread.patterns ∧
      reread.outlook = filter.outlook ∧
      ∀ candidate, reread.accepts candidate = filter.accepts candidate := by
  intro hidden doubleTime easy filter reread
  have coded : ∀ mod ∈ filter.allMods, mod.IsCode := by decide
  have read : Filter.parse filter.text = .ok reread := by decide +kernel
  obtain ⟨readable, kept⟩ := parse_text_keeps_normal_forms filter coded
  exact ⟨coded, by decide, read, by decide, readable.mp ⟨_, read⟩, kept reread read⟩

end ScoreSieve
