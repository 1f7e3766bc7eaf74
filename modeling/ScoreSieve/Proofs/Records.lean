import ScoreSieve.Proofs.Codes
import ScoreSieve.Proofs.Stages

namespace ScoreSieve

/-- Holds if the modifiers are those that an entry has in writing: its list, or the codes of its run
in whatever case. -/
inductive WrittenMods.Denotes : WrittenMods → List Mod → Prop
  | codes (mods : List Mod) : Denotes (.codes mods) mods
  | run {text : List Char} {mods : List Mod} (codes : ∀ mod ∈ mods, mod.IsCode)
      (letters : (Text.trim text).map Char.toUpper = Mod.concat mods) : Denotes (.run text) mods

theorem WrittenMods.read_eq_ok_iff {written : WrittenMods} {mods : List Mod} :
    written.read = .ok mods ↔ written.Denotes mods := by
  constructor
  · intro read
    cases written with
    | codes =>
      cases read
      exact .codes mods
    | run text =>
      obtain ⟨isRun, same⟩ := Mod.parseRun_eq_ok_iff.mp read
      refine .run (Mod.isCode_of_parseRun read) ?_
      rw [← same, Mod.concat_pairs isRun.1 isRun.2]
  · rintro (_ | ⟨codes, letters⟩)
    · rfl
    · exact Mod.parseRun_of_upper codes letters

/-- Only modifiers that are written as one text can be refused, and then the text is no run of
codes. -/
theorem WrittenMods.read_eq_error_iff {written : WrittenMods} {cause : ParseError} :
    written.read = .error cause ↔
      ∃ run, written = .run run ∧ ¬ IsRun run ∧ cause = .invalidCode (Text.trim run) := by
  cases written with
  | codes mods => simp [WrittenMods.read]
  | run text =>
    rw [WrittenMods.read, Mod.parseRun_eq_error_iff]
    simp

theorem WrittenMods.exists_read_iff {written : WrittenMods} :
    (∃ mods, written.read = .ok mods) ↔ ∀ run, written = .run run → IsRun run := by
  cases written with
  | codes mods => simp [WrittenMods.read]
  | run text => simp [WrittenMods.read, Mod.exists_parseRun_iff]

/-- What the entry at a place, counted from zero, says of its score. -/
structure Entry.Gives (entry : Entry) (place : Nat) (score : Score) : Prop where
  id : score.id = entry.id.getD (place + 1)
  title : score.title = entry.title
  points : score.points = entry.points
  mods : entry.mods.Denotes score.mods

theorem Entry.score_eq_ok_iff {entry : Entry} {place : Nat} {score : Score} :
    entry.score place = .ok score ↔ entry.Gives place score := by
  constructor
  · intro given
    unfold Entry.score at given
    split at given
    next mods read =>
      cases given
      exact ⟨rfl, rfl, rfl, WrittenMods.read_eq_ok_iff.mp read⟩
    next => cases given
  · rintro ⟨id, title, points, mods⟩
    simp only [Entry.score, WrittenMods.read_eq_ok_iff.mpr mods, ← id, ← title, ← points]

/-- Entries that can be read give one score each, in their order. -/
theorem Entry.scores_eq_ok_iff {place : Nat} {entries : List Entry} {scores : List Score} :
    Entry.scores place entries = .ok scores ↔
      List.Forall₂ (fun (entry, place) score => entry.Gives place score)
        (entries.zipIdx place) scores := by
  induction entries generalizing place scores with
  | nil => simp [Entry.scores, eq_comm]
  | cons entry rest ih =>
    rw [Entry.scores, bind_eq_ok_iff, List.zipIdx_cons, List.forall₂_cons_left_iff]
    constructor
    · rintro ⟨score, first, others⟩
      obtain ⟨later, read, same⟩ := bind_eq_ok_iff.mp others
      cases same
      exact ⟨score, later, Entry.score_eq_ok_iff.mp first, ih.mp read, rfl⟩
    · rintro ⟨score, later, first, read, rfl⟩
      exact ⟨score, Entry.score_eq_ok_iff.mpr first, bind_eq_ok_iff.mpr ⟨later, ih.mpr read, rfl⟩⟩

/-- Holds if the entry at a place has a run that cannot be read, and no entry before it has. -/
def FirstBadRun (entries : List Entry) (place : Nat) (run : List Char) : Prop :=
  (∃ entry, entries[place]? = some entry ∧ entry.mods = .run run) ∧ ¬ IsRun run ∧
    ∀ before < place, ∀ entry ∈ entries[before]?, ∀ other, entry.mods = .run other → IsRun other

/-- The first entry that is refused is the first one with a bad run of codes. -/
theorem failsFirst_read_iff {entries : List Entry} {place : Nat} {cause : ParseError} :
    FailsFirst (·.mods.read) entries place cause ↔
      ∃ run, FirstBadRun entries place run ∧ cause = .invalidCode (Text.trim run) := by
  simp only [failsFirst_iff, WrittenMods.read_eq_error_iff, WrittenMods.exists_read_iff]
  constructor
  · rintro ⟨entry, found, ⟨run, written, bad, same⟩, earlier⟩
    exact ⟨run, ⟨⟨entry, found, written⟩, bad, earlier⟩, same⟩
  · rintro ⟨run, ⟨⟨entry, found, written⟩, bad, earlier⟩, same⟩
    exact ⟨entry, found, ⟨run, written, bad, same⟩, earlier⟩

/-- A file that is a list of entries gives their scores, or the first run among them that cannot be
read. -/
theorem Score.parseWith_of_entries {reader : List Char → Option Json} {text : List Char}
    {entries : List Entry} (delivered : (reader text).bind Entry.listOfJson? = some entries) :
    Score.parseWith reader text = Entry.scores 0 entries := by
  obtain ⟨json, read, listed⟩ := Option.bind_eq_some_iff.mp delivered
  simp only [Score.parseWith, read, Score.listOfJson, listed]

/-- A file that is read as scores holds a list of entries that give them. -/
theorem Score.exists_entries {reader : List Char → Option Json} {text : List Char}
    {scores : List Score} (given : Score.parseWith reader text = .ok scores) :
    ∃ entries, (reader text).bind Entry.listOfJson? = some entries ∧
      Entry.scores 0 entries = .ok scores := by
  cases delivered : (reader text).bind Entry.listOfJson? with
  | none =>
    rw [Score.parseWith_eq_error_iff.mpr (.inl ⟨delivered, rfl⟩)] at given
    cases given
  | some entries => exact ⟨entries, rfl, Score.parseWith_of_entries delivered ▸ given⟩

/-- Entries that give the same score at every place can stand for each other. -/
theorem Entry.scores_congr {entry other : Entry}
    (same : ∀ place, entry.score place = other.score place) (earlier later : List Entry)
    (place : Nat) :
    Entry.scores place (earlier ++ entry :: later) =
      Entry.scores place (earlier ++ other :: later) := by
  induction earlier generalizing place with
  | nil => simp only [List.nil_append, Entry.scores, same]
  | cons first rest ih => simp only [List.cons_append, Entry.scores, ih]

/-- The value of a member as it is read, or a value for a member that is missing. -/
def readMember? {α : Type} (members : List (String × Json)) (name : String) (missing : α)
    (value? : Json → Option α) : Option α := do
  match ← member? name members with
  | none => return missing
  | some value => value? value

/-- Each field of an entry is read from the members of its name, with a value of its own for when
there are none. -/
theorem Entry.ofMembers?_eq (members : List (String × Json)) :
    Entry.ofMembers? members = do
      let id ← readMember? members "id" none count?
      let title ← readMember? members "title" none title?
      let points ← readMember? members "score" none count?
      let mods ← readMember? members "mods" (.codes []) writtenMods?
      return ⟨id, title, points, mods⟩ :=
  rfl

/-- What is read of a member is the value for a missing one, or comes from the value of a member. -/
theorem readMember?_cases {α : Type} {members : List (String × Json)} {name : String}
    {missing read : α} {value? : Json → Option α}
    (given : readMember? members name missing value? = some read) :
    read = missing ∨ ∃ value, value? value = some read := by
  obtain ⟨found, _, given⟩ := Option.bind_eq_some_iff.mp given
  cases found with
  | none => exact .inl (Option.some.inj given).symm
  | some value => exact .inr ⟨value, given⟩

/-- Holds of an entry whose numbers fit in 64 bits and whose list, if it has one, holds codes. -/
structure Entry.Fits (entry : Entry) : Prop where
  id : ∀ n ∈ entry.id, n < UInt64.size
  points : ∀ n ∈ entry.points, n < UInt64.size
  codes : ∀ mods, entry.mods = .codes mods → ∀ mod ∈ mods, mod.IsCode

theorem lt_of_count? {json : Json} {count : Option Nat} (read : count? json = some count) :
    ∀ n ∈ count, n < UInt64.size := by
  unfold count? at read
  split at read
  next =>
    cases read
    simp
  next value =>
    split at read
    next range =>
      cases read
      simp only [Option.mem_def, Option.some.injEq]
      omega
    next => cases read
  next => cases read

theorem isCode_of_code? {json : Json} {mod : Mod} (read : code? json = some mod) : mod.IsCode := by
  unfold code? at read
  split at read
  next text =>
    cases parsed : Mod.parse text.toList with
    | error cause =>
      rw [parsed] at read
      cases read
    | ok own =>
      rw [parsed] at read
      cases read
      exact Mod.isCode_of_parse parsed
  next => cases read

theorem isCode_of_writtenMods? {json : Json} {mods : List Mod}
    (read : writtenMods? json = some (.codes mods)) : ∀ mod ∈ mods, mod.IsCode := by
  unfold writtenMods? at read
  split at read
  next items =>
    obtain ⟨own, listed, same⟩ := Option.map_eq_some_iff.mp read
    cases same
    intro mod member
    obtain ⟨item, _, parsed⟩ := exists_of_forall₂ (mapM_eq_some_iff.mp listed) member
    exact isCode_of_code? parsed
  next => cases read
  next => cases read

/-- Whatever is read as an entry is within the bounds of its fields. -/
theorem Entry.fits_of_ofJson? {json : Json} {entry : Entry}
    (read : Entry.ofJson? json = some entry) : entry.Fits := by
  cases json with
  | object members =>
    rw [Entry.ofJson?, Entry.ofMembers?_eq] at read
    obtain ⟨id, readId, read⟩ := Option.bind_eq_some_iff.mp read
    obtain ⟨title, _, read⟩ := Option.bind_eq_some_iff.mp read
    obtain ⟨points, readPoints, read⟩ := Option.bind_eq_some_iff.mp read
    obtain ⟨written, readMods, read⟩ := Option.bind_eq_some_iff.mp read
    cases read
    refine ⟨?_, ?_, ?_⟩
    · rcases readMember?_cases readId with rfl | ⟨value, given⟩
      · simp
      · exact lt_of_count? given
    · rcases readMember?_cases readPoints with rfl | ⟨value, given⟩
      · simp
      · exact lt_of_count? given
    · rintro mods rfl
      rcases readMember?_cases readMods with same | ⟨value, given⟩
      · cases same
        simp
      · exact isCode_of_writtenMods? given
  | _ => cases read

theorem Entry.fits_of_listOfJson? {json : Json} {entries : List Entry}
    (read : Entry.listOfJson? json = some entries) : ∀ entry ∈ entries, entry.Fits := by
  cases json with
  | array items =>
    intro entry member
    obtain ⟨item, _, given⟩ := exists_of_forall₂ (mapM_eq_some_iff.mp read) member
    exact Entry.fits_of_ofJson? given
  | _ => cases read

/-- Holds of a score whose numbers fit in 64 bits and whose modifiers are codes. -/
structure Score.Fits (score : Score) : Prop where
  id : score.id < UInt64.size
  points : ∀ n ∈ score.points, n < UInt64.size
  codes : ∀ mod ∈ score.mods, mod.IsCode

theorem WrittenMods.Denotes.isCode {entry : Entry} {mods : List Mod}
    (denotes : entry.mods.Denotes mods) (fits : entry.Fits) : ∀ mod ∈ mods, mod.IsCode := by
  cases written : entry.mods with
  | codes own =>
    rw [written] at denotes
    cases denotes
    exact fits.codes mods written
  | run text =>
    rw [written] at denotes
    cases denotes
    assumption

theorem Entry.Gives.fits {entry : Entry} {place : Nat} {score : Score}
    (gives : entry.Gives place score) (fits : entry.Fits) (bound : place + 1 < UInt64.size) :
    score.Fits := by
  obtain ⟨id, _, points, denotes⟩ := gives
  refine ⟨?_, points ▸ fits.points, denotes.isCode fits⟩
  rw [id]
  cases own : entry.id with
  | none => exact bound
  | some n => exact fits.id n own

/-- Each score of a file comes from the entry at some place, and that entry gives it. -/
theorem Score.exists_gives {entries : List Entry} {scores : List Score} {score : Score}
    (given : Entry.scores 0 entries = .ok scores) (member : score ∈ scores) :
    ∃ (place : Nat) (entry : Entry), entries[place]? = some entry ∧ entry.Gives place score := by
  obtain ⟨⟨entry, place⟩, inPlace, gives⟩ :=
    exists_of_forall₂ (Entry.scores_eq_ok_iff.mp given) member
  exact ⟨place, entry, List.mem_zipIdx_iff_getElem?.mp inPlace, gives⟩

/-- All modifiers of the scores that a file delivers have codes, whatever the reader of its values
is. -/
theorem Score.isCode_of_parseWith {reader : List Char → Option Json} {text : List Char}
    {scores : List Score} {score : Score} (given : Score.parseWith reader text = .ok scores)
    (member : score ∈ scores) : ∀ mod ∈ score.mods, mod.IsCode := by
  obtain ⟨entries, delivered, given⟩ := Score.exists_entries given
  obtain ⟨json, _, listed⟩ := Option.bind_eq_some_iff.mp delivered
  obtain ⟨place, entry, found, gives⟩ := Score.exists_gives given member
  exact gives.mods.isCode (Entry.fits_of_listOfJson? listed entry (List.mem_of_getElem? found))

end ScoreSieve
