import ScoreSieve.Proofs.Outlook
import ScoreSieve.Proofs.Records

namespace ScoreSieve

variable {mods : List Mod}

namespace Mod

/-- Codes are read from their letters in any case, with any white space around them. -/
theorem parseRun_surrounded {before run after : List Char} (codes : ∀ mod ∈ mods, mod.IsCode)
    (letters : run.map Char.toUpper = concat mods)
    (blanksBefore : ∀ c ∈ before, Text.isBlank c = true)
    (blanksAfter : ∀ c ∈ after, Text.isBlank c = true) :
    parseRun (before ++ run ++ after) = .ok mods := by
  obtain ⟨_, _, alphabetic⟩ := pairs_of_upper codes letters
  refine parseRun_of_upper codes ?_
  rwa [Text.trim_surrounded blanksBefore (isTrimmed_of_letters alphabetic) blanksAfter]

/-- What a run says of the modifiers read from it. -/
theorem parseRun_gives {text : List Char} (read : parseRun text = .ok mods) :
    mods.length = (Text.trim text).length / 2 ∧
      (∀ place mod, mods[place]? = some mod →
        parse (((Text.trim text).drop (2 * place)).take 2) = .ok mod) ∧
      concat mods = (Text.trim text).map Char.toUpper := by
  obtain ⟨⟨even, letters⟩, rfl⟩ := parseRun_eq_ok_iff.mp read
  exact ⟨length_pairs _, fun _ _ found => parse_slice letters found, concat_pairs even letters⟩

end Mod

theorem applied_applied (mods : List Mod) : applied (applied mods) = applied mods := by
  simp [applied, List.filter_filter]

/-- A label is read as the modifiers that it was made of, apart from `NM`. -/
theorem parseCandidate_label (codes : ∀ mod ∈ mods, mod.IsCode) :
    parseCandidate (Mod.label mods).toList = .ok (applied mods) := by
  cases mods with
  | nil => decide
  | cons mod mods =>
    have text : (Mod.label (mod :: mods)).toList = Mod.concat (mod :: mods) :=
      String.toList_ofList
    rw [text, parseCandidate, Mod.parseRun_concat codes]
    rfl

/-- The label of a candidate that was read is read as that candidate. -/
theorem parseCandidate_label_of_parseCandidate {text : List Char}
    (read : parseCandidate text = .ok mods) :
    parseCandidate (Mod.label mods).toList = .ok mods := by
  obtain ⟨run, parsed, rfl⟩ := map_eq_ok_iff.mp read
  rw [parseCandidate_label (isCode_of_parseCandidate read),
    applied_applied]

/-- A filter does not see `NM` in a candidate. -/
theorem Filter.accepts_applied (filter : Filter) (candidate : List Mod) :
    filter.accepts (applied candidate) = filter.accepts candidate := by
  simp only [accepts_eq_any_evaluate, Pattern.evaluate, applied_applied]

/-- All readers of codes agree on every text, and labels are read back: that of a candidate as the
candidate, that of a score as modifiers on which every filter says the same as on its own. -/
theorem readers_agree_and_labels_read_back :
    (∀ mods before run after, (∀ mod ∈ mods, mod.IsCode) → run.map Char.toUpper = Mod.concat mods →
      (∀ c ∈ before, Text.isBlank c = true) → (∀ c ∈ after, Text.isBlank c = true) →
      Mod.parseRun (before ++ run ++ after) = .ok mods) ∧
    (∀ text, (∃ mods, Mod.parseRun text = .ok mods) ↔
      (Text.trim text).length % 2 = 0 ∧ ∀ c ∈ Text.trim text, c.isAlpha = true) ∧
    (∀ text mods, Mod.parseRun text = .ok mods →
      mods.length = (Text.trim text).length / 2 ∧
      (∀ place mod, mods[place]? = some mod →
        Mod.parse (((Text.trim text).drop (2 * place)).take 2) = .ok mod) ∧
      Mod.concat mods = (Text.trim text).map Char.toUpper) ∧
    (∀ text mod, Mod.parse text = .ok mod ↔ Mod.parseRun text = .ok [mod]) ∧
    (∀ run mods, readCodes run = .ok mods ↔
      run ≠ [] ∧ Text.trim run = run ∧ Mod.parseRun run = .ok mods) ∧
    (∀ text mods, parseCandidate text = .ok mods →
      parseCandidate (Mod.label mods).toList = .ok mods) ∧
    (∀ text scores score, Score.parseFile text = .ok scores → score ∈ scores →
      ∃ mods, parseCandidate (Mod.label score.mods).toList = .ok mods ∧
        ∀ filter : Filter, filter.accepts mods = filter.accepts score.mods) := by
  refine ⟨fun _ _ _ _ => Mod.parseRun_surrounded, fun _ => Mod.exists_parseRun_iff,
    fun _ _ => Mod.parseRun_gives, fun _ _ => Mod.parse_eq_ok_iff_parseRun,
    fun _ _ => Mod.readCodes_eq_ok_iff_parseRun,
    fun _ _ => parseCandidate_label_of_parseCandidate, fun _ _ score given member => ?_⟩
  exact ⟨applied score.mods, parseCandidate_label (Score.isCode_of_parseWith given member),
    fun filter => filter.accepts_applied score.mods⟩

/-- A score keeps an `NM` that its run names. The label shows it, and read back it is gone. -/
theorem label_with_no_mod_reads_back :
    Score.parseFile "[\x7b'mods': 'nmHD'\x7d]".toList =
      .ok [⟨1, none, none, [Mod.noMod, ⟨['H', 'D']⟩]⟩] ∧
    ∃ mods, parseCandidate (Mod.label [Mod.noMod, ⟨['H', 'D']⟩]).toList = .ok mods ∧
      ∀ filter : Filter, filter.accepts mods = filter.accepts [Mod.noMod, ⟨['H', 'D']⟩] := by
  have read : Json.ofText? "[\x7b'mods': 'nmHD'\x7d]".toList =
      some (.array [.object [("mods", .string "nmHD")]]) := by cbv
  have given : Score.parseFile "[\x7b'mods': 'nmHD'\x7d]".toList =
      .ok [⟨1, none, none, [Mod.noMod, ⟨['H', 'D']⟩]⟩] := by
    simp only [Score.parseFile, Score.parseWith, read]
    decide
  obtain ⟨_, _, _, _, _, _, ofScores⟩ := readers_agree_and_labels_read_back
  have back := ofScores _ _ ⟨1, none, none, [Mod.noMod, ⟨['H', 'D']⟩]⟩ given List.mem_cons_self
  exact ⟨given, back⟩

end ScoreSieve
