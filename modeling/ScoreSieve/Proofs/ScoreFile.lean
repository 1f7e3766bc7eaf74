import ScoreSieve.Proofs.JsonText
import ScoreSieve.Proofs.Records
import ScoreSieve.Report

namespace ScoreSieve

/-- A member with another name does not matter to what is found under a name. -/
theorem member?_of_ne {name own : String} (apart : own ≠ name) (front back : List (String × Json))
    (value : Json) :
    member? name (front ++ (own, value) :: back) = member? name (front ++ back) := by
  simp only [member?, List.filter_append, List.filter_cons, apart, decide_false, Bool.false_eq_true,
    if_false]

/-- Whether a member is found where it stands, or refused as a second one of its name, does not
depend on its value. -/
theorem member?_self_cases (name : String) (front back : List (String × Json)) :
    (∀ value, member? name (front ++ (name, value) :: back) = some (some value)) ∨
      ∀ value, member? name (front ++ (name, value) :: back) = none := by
  have split (value : Json) : (front ++ (name, value) :: back).filter (·.1 = name) =
      front.filter (·.1 = name) ++ (name, value) :: back.filter (·.1 = name) := by
    simp [List.filter_append]
  simp only [member?, split]
  cases front.filter (·.1 = name) with
  | nil =>
    cases back.filter (·.1 = name) with
    | nil => exact .inl fun _ => rfl
    | cons second others => exact .inr fun _ => rfl
  | cons first others =>
    cases others with
    | nil => exact .inr fun _ => rfl
    | cons second others => exact .inr fun _ => rfl

/-- A list of codes and a run of the same codes make entries that differ in this spelling only. -/
theorem Entry.ofJson?_respelled {items : List Json} {mods : List Mod} (run : List Char)
    (listed : items.mapM code? = some mods) (front back : List (String × Json)) :
    (Entry.ofJson? (.object (front ++ ("mods", .array items) :: back)) = none ∧
      Entry.ofJson? (.object (front ++ ("mods", .string (String.ofList run)) :: back)) = none) ∨
    ∃ id title points,
      Entry.ofJson? (.object (front ++ ("mods", .array items) :: back)) =
        some ⟨id, title, points, .codes mods⟩ ∧
      Entry.ofJson? (.object (front ++ ("mods", .string (String.ofList run)) :: back)) =
        some ⟨id, title, points, .run run⟩ := by
  have codes : writtenMods? (.array items) = some (.codes mods) := by
    rw [writtenMods?, listed]
    rfl
  have spelled : writtenMods? (.string (String.ofList run)) = some (.run run) := by
    rw [writtenMods?, String.toList_ofList]
  have other {α : Type} {name : String} (apart : "mods" ≠ name) (value : Json) (missing : α)
      (value? : Json → Option α) :
      readMember? (front ++ ("mods", value) :: back) name missing value? =
        readMember? (front ++ back) name missing value? := by
    rw [readMember?, readMember?, member?_of_ne apart]
  simp only [Entry.ofJson?, Entry.ofMembers?_eq, other (show "mods" ≠ "id" by decide),
    other (show "mods" ≠ "title" by decide), other (show "mods" ≠ "score" by decide)]
  cases readMember? (front ++ back) "id" none count? with
  | none => exact .inl ⟨rfl, rfl⟩
  | some id =>
    cases readMember? (front ++ back) "title" none title? with
    | none => exact .inl ⟨rfl, rfl⟩
    | some title =>
      cases readMember? (front ++ back) "score" none count? with
      | none => exact .inl ⟨rfl, rfl⟩
      | some points =>
        rcases member?_self_cases "mods" front back with found | refused
        · simp [readMember?, found, codes, spelled]
        · simp [readMember?, refused]

/-- In a file, a run can stand for a list of codes wherever it has their letters. -/
theorem Score.listOfJson_respelled {items : List Json} {mods : List Mod} {run : List Char}
    (listed : items.mapM code? = some mods)
    (letters : (Text.trim run).map Char.toUpper = Mod.concat mods)
    (earlier later : List Json) (front back : List (String × Json)) :
    Score.listOfJson (.array
        (earlier ++ .object (front ++ ("mods", .string (String.ofList run)) :: back) :: later)) =
      Score.listOfJson (.array
        (earlier ++ .object (front ++ ("mods", .array items) :: back) :: later)) := by
  have codes : ∀ mod ∈ mods, mod.IsCode := by
    intro mod member
    obtain ⟨item, _, parsed⟩ := exists_of_forall₂ (mapM_eq_some_iff.mp listed) member
    exact isCode_of_code? parsed
  have read : (WrittenMods.run run).read = .ok mods :=
    WrittenMods.read_eq_ok_iff.mpr (.run codes letters)
  simp only [Score.listOfJson, Entry.listOfJson?, List.mapM_append, List.mapM_cons]
  cases earlier.mapM Entry.ofJson? with
  | none => rfl
  | some before =>
    rcases Entry.ofJson?_respelled run listed front back with
      ⟨noList, noRun⟩ | ⟨id, title, points, ofList, ofRun⟩
    · rw [noList, noRun]
    · rw [ofList, ofRun]
      cases later.mapM Entry.ofJson? with
      | none => rfl
      | some after =>
        have same (place : Nat) : Entry.score place ⟨id, title, points, .run run⟩ =
            Entry.score place ⟨id, title, points, .codes mods⟩ := by
          simp only [Entry.score, read]
          rfl
        exact Entry.scores_congr same before after 0

/-- The entry that a report makes of a score. -/
def Score.entry (score : Score) : Entry :=
  ⟨some score.id, score.title, score.points, .codes score.mods⟩

/-- The entries of scores give these scores, as each of them has all that a score has. -/
theorem Entry.scores_entries (scores : List Score) (place : Nat) :
    Entry.scores place (scores.map Score.entry) = .ok scores := by
  induction scores generalizing place with
  | nil => rfl
  | cons score scores ih =>
    rw [List.map_cons, Entry.scores, ih]
    rfl

theorem count?_ofNat {n : Nat} (bound : n < UInt64.size) : count? (.ofNat n) = some (some n) := by
  have range : 0 ≤ (n : Int) ∧ (n : Int) < UInt64.size := by omega
  simp only [Json.ofNat, count?, if_pos range, Int.toNat_natCast]

theorem code?_name {mod : Mod} (code : mod.IsCode) : code? (.string mod.name) = some mod := by
  have read : Mod.parse mod.letters = .ok mod := by
    have whole : Mod.parseRun (Mod.concat [mod]) = .ok [mod] :=
      Mod.parseRun_concat (by simpa using code)
    rwa [Mod.concat, List.flatMap_singleton, ← Mod.parse_eq_ok_iff_parseRun] at whole
  rw [code?, Mod.name, String.toList_ofList, read]
  rfl

/-- The modifiers of a report are read as the modifiers that they were made of. -/
theorem writtenMods?_modsJson {mods : List Mod} (codes : ∀ mod ∈ mods, mod.IsCode) :
    writtenMods? (Report.modsJson mods) = some (.codes mods) := by
  have read : (mods.map fun mod => Json.string mod.name).mapM code? = some mods := by
    rw [mapM_eq_some_iff, List.forall₂_map_left_iff, List.forall₂_same]
    exact fun mod member => code?_name (codes mod member)
  rw [Report.modsJson, writtenMods?, read]
  rfl

theorem count?_ofOption {count : Option Nat} (bound : ∀ n ∈ count, n < UInt64.size) :
    count? (.ofOption .ofNat count) = some count := by
  cases count with
  | none => rfl
  | some n => exact count?_ofNat (bound n rfl)

theorem title?_ofOption (title : Option String) :
    title? (.ofOption .string title) = some title := by
  cases title <;> rfl

theorem readMember?_of_found {α : Type} (name : String) (value : Json)
    {members : List (String × Json)} {missing : α} {value? : Json → Option α}
    (found : members.filter (·.1 = name) = [(name, value)]) :
    readMember? members name missing value? = value? value := by
  rw [readMember?, member?, found]
  rfl

/-- A reported score is read as its entry, as long as its numbers fit and its modifiers have
codes. -/
theorem ofJson?_scoreJson {score : Score} (fits : score.Fits) :
    Entry.ofJson? (Report.scoreJson score) = some score.entry := by
  rw [Report.scoreJson, Entry.ofJson?, Entry.ofMembers?_eq,
    readMember?_of_found "id" (.ofNat score.id) (by simp),
    readMember?_of_found "title" (.ofOption .string score.title) (by simp),
    readMember?_of_found "score" (.ofOption .ofNat score.points) (by simp),
    readMember?_of_found "mods" (Report.modsJson score.mods) (by simp),
    count?_ofNat fits.id, count?_ofOption fits.points, title?_ofOption,
    writtenMods?_modsJson fits.codes]
  rfl

theorem exact_ofOption {α : Type} {json : α → Json} (exact : ∀ value, (json value).Exact)
    (value : Option α) : (Json.ofOption json value).Exact := by
  cases value with
  | none => exact .null
  | some value => exact exact value

theorem exact_scoreJson (score : Score) : (Report.scoreJson score).Exact := by
  refine .object ?_
  simp only [List.forall_mem_cons, List.not_mem_nil, false_imp_iff, implies_true, and_true]
  exact ⟨.integer _, exact_modsJson _, exact_ofOption (fun _ => .integer _) _,
    exact_ofOption .string _⟩

theorem listOfJson?_scoresJson {scores : List Score} (fits : ∀ score ∈ scores, score.Fits) :
    Entry.listOfJson? (.array (scores.map Report.scoreJson)) = some (scores.map Score.entry) := by
  rw [Entry.listOfJson?, mapM_eq_some_iff, List.forall₂_map_left_iff, List.forall₂_map_right_iff,
    List.forall₂_same]
  exact fun score member => ofJson?_scoreJson (fits score member)

theorem exact_scoresJson (scores : List Score) :
    (Json.array (scores.map Report.scoreJson)).Exact := by
  refine .array fun item member => ?_
  obtain ⟨score, _, rfl⟩ := List.mem_map.mp member
  exact exact_scoreJson score

/-- A text that is read as the list of a report gives the scores of the report. -/
theorem Score.parseWith_scoresJson {reader : List Char → Option Json} {text : List Char}
    {scores : List Score} (fits : ∀ score ∈ scores, score.Fits)
    (listed : reader text = some (.array (scores.map Report.scoreJson))) :
    Score.parseWith reader text = .ok scores := by
  have delivered : (reader text).bind Entry.listOfJson? = some (scores.map Score.entry) := by
    rw [listed, Option.bind_some, listOfJson?_scoresJson fits]
  rw [Score.parseWith_of_entries delivered, Entry.scores_entries]

/-- The list of a report is a score file as it is written. -/
theorem Score.parseFile_scoresJson {scores : List Score} (fits : ∀ score ∈ scores, score.Fits) :
    Score.parseFile (Json.array (scores.map Report.scoreJson)).text.toList = .ok scores :=
  Score.parseWith_scoresJson fits (Json.ofText?_pretty (exact_scoresJson scores) 0)

section

variable {reader : List Char → Option Json} {text : List Char} {entries : List Entry}

/-- The scores of a file fit the fields of a report. -/
theorem Score.fits_of_scores {scores : List Score}
    (delivered : (reader text).bind Entry.listOfJson? = some entries)
    (bound : entries.length < UInt64.size) (given : Entry.scores 0 entries = .ok scores) :
    ∀ score ∈ scores, score.Fits := by
  obtain ⟨json, _, listed⟩ := Option.bind_eq_some_iff.mp delivered
  intro score member
  obtain ⟨place, entry, found, gives⟩ := Score.exists_gives given member
  have below := (List.getElem?_eq_some_iff.mp found).1
  exact gives.fits (Entry.fits_of_listOfJson? listed entry (List.mem_of_getElem? found)) (by omega)

theorem Score.parseWith_eq_invalidMods_iff
    (delivered : (reader text).bind Entry.listOfJson? = some entries) {error : ScoreError} :
    Score.parseWith reader text = .error error ↔ ∃ place run, FirstBadRun entries place run ∧
      error = .invalidMods place (.invalidCode (Text.trim run)) := by
  rw [Score.parseWith_of_entries delivered, Entry.scores_eq_error_iff]
  simp only [failsFirst_read_iff, Nat.zero_add]
  constructor
  · rintro ⟨place, _, ⟨run, first, rfl⟩, rfl⟩
    exact ⟨place, run, first, rfl⟩
  · rintro ⟨place, run, first, rfl⟩
    exact ⟨place, _, ⟨run, first, rfl⟩, rfl⟩

/-- A list of entries gives one score an entry, in order, or names the first run that cannot be
read. A run says the same as the list of its codes. While the places of the entries fit in 64 bits,
a report on any of the scores lists them, and where the reader reads the list that the printer has
printed, it gives these very scores. -/
theorem score_file_read_respelled_and_reread
    (delivered : (reader text).bind Entry.listOfJson? = some entries) :
    (∀ scores, Score.parseWith reader text = .ok scores ↔
      List.Forall₂ (fun (entry, place) score => entry.Gives place score) entries.zipIdx scores) ∧
    (∀ error, Score.parseWith reader text = .error error ↔
      ∃ place run, FirstBadRun entries place run ∧
        error = .invalidMods place (.invalidCode (Text.trim run))) ∧
    (∀ earlier later front back items mods run, items.mapM code? = some mods →
      (Text.trim run).map Char.toUpper = Mod.concat mods →
      Score.listOfJson (.array
          (earlier ++ .object (front ++ ("mods", .string (String.ofList run)) :: back) :: later)) =
        Score.listOfJson (.array
          (earlier ++ .object (front ++ ("mods", .array items) :: back) :: later))) ∧
    (entries.length < UInt64.size → ∀ scores selected, Score.parseWith reader text = .ok scores →
      (∀ score ∈ selected, score ∈ scores) → ∀ expression scanned, ∃ members items,
        Report.scoresJson expression ⟨selected, scanned⟩ = .object members ∧
        member? "scores" members = some (some (.array items)) ∧
        ∀ printer : Json → List Char, reader (printer (.array items)) = some (.array items) →
          Score.parseWith reader (printer (.array items)) = .ok selected) := by
  refine ⟨fun scores => ?_, fun error => Score.parseWith_eq_invalidMods_iff delivered,
    fun earlier later front back items mods run listed letters =>
      Score.listOfJson_respelled listed letters earlier later front back, ?_⟩
  · rw [Score.parseWith_of_entries delivered, Entry.scores_eq_ok_iff]
  · intro bound scores selected given chosen expression scanned
    rw [Score.parseWith_of_entries delivered] at given
    have fits : ∀ score ∈ selected, score.Fits := fun score member =>
      Score.fits_of_scores delivered bound given score (chosen score member)
    exact ⟨_, selected.map Report.scoreJson, rfl, by simp [member?],
      fun _ listed => Score.parseWith_scoresJson fits listed⟩

end

/-- A file with a run and with a list of codes is read, and its second score reported and reread. -/
theorem score_file_of_run_and_list :
    let second : Score := ⟨2, none, none, [⟨['N', 'M']⟩]⟩
    (Json.ofText? "[\x7b'mods': ' hdDT'\x7d, \x7b'mods': ['nm']\x7d]".toList).bind
        Entry.listOfJson? =
      some [⟨none, none, none, .run [' ', 'h', 'd', 'D', 'T']⟩,
        ⟨none, none, none, .codes [⟨['N', 'M']⟩]⟩] ∧
    Score.parseWith Json.ofText? "[\x7b'mods': ' hdDT'\x7d, \x7b'mods': ['nm']\x7d]".toList =
      .ok [⟨1, none, none, [⟨['H', 'D']⟩, ⟨['D', 'T']⟩]⟩, second] ∧
    ∃ members items,
      Report.scoresJson ⟨⟨[], false⟩, false⟩ ⟨[second], 2⟩ = .object members ∧
      member? "scores" members = some (some (.array items)) ∧
      Score.parseWith Json.ofText? (Json.array items).text.toList = .ok [second] := by
  intro second
  have read : Json.ofText? "[\x7b'mods': ' hdDT'\x7d, \x7b'mods': ['nm']\x7d]".toList =
      some (.array [.object [("mods", .string " hdDT")],
        .object [("mods", .array [.string "nm"])]]) := by
    cbv
  have delivered : (Json.ofText? "[\x7b'mods': ' hdDT'\x7d, \x7b'mods': ['nm']\x7d]".toList).bind
        Entry.listOfJson? =
      some [⟨none, none, none, .run [' ', 'h', 'd', 'D', 'T']⟩,
        ⟨none, none, none, .codes [⟨['N', 'M']⟩]⟩] := by
    rw [read, Option.bind_some]
    decide
  obtain ⟨gives, _, _, reread⟩ := score_file_read_respelled_and_reread delivered
  have ofRun : Entry.Gives ⟨none, none, none, .run [' ', 'h', 'd', 'D', 'T']⟩ 0
      ⟨1, none, none, [⟨['H', 'D']⟩, ⟨['D', 'T']⟩]⟩ :=
    ⟨rfl, rfl, rfl, .run (by decide) (by decide)⟩
  have ofList : Entry.Gives ⟨none, none, none, .codes [⟨['N', 'M']⟩]⟩ 1 second :=
    ⟨rfl, rfl, rfl, .codes _⟩
  have given := (gives _).mpr (.cons ofRun (.cons ofList .nil))
  obtain ⟨members, items, reported, listed, again⟩ :=
    reread (by decide) _ [second] given (by simp) ⟨⟨[], false⟩, false⟩ 2
  have known : items = [second].map Report.scoreJson := by
    cases reported
    simpa [member?] using listed.symm
  have printed : Json.ofText? (Json.array items).text.toList = some (.array items) := by
    rw [known]
    exact Json.ofText?_pretty (exact_scoresJson [second]) 0
  exact ⟨delivered, given, members, items, reported, listed,
    again (fun json => json.text.toList) printed⟩

end ScoreSieve
