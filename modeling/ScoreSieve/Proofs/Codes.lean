import ScoreSieve.Proofs.RoundTrip

namespace ScoreSieve

/-- Holds of a text of letters that can be read two by two, white space around them apart. -/
def IsRun (text : List Char) : Prop :=
  (Text.trim text).length % 2 = 0 ∧ ∀ c ∈ Text.trim text, c.isAlpha = true

namespace Mod

variable {text run : List Char} {mods : List Mod} {mod : Mod}

/-- The letters of the modifiers of a run are those of the run in upper case. -/
theorem concat_pairs (even : run.length % 2 = 0) (letters : ∀ c ∈ run, c.isAlpha = true) :
    concat (pairs run) = run.map Char.toUpper := by
  induction run using pairs.induct with
  | case1 a b rest ih =>
    have evenRest : rest.length % 2 = 0 := by
      simp only [List.length_cons] at even
      omega
    have later := ih evenRest fun c member => letters c (by simp [member])
    rw [pairs, ofText_pair (letters a (by simp)) (letters b (by simp))]
    simpa [concat] using later
  | case2 run short =>
    rcases run with _ | ⟨a, _ | ⟨b, rest⟩⟩
    · rfl
    · simp at even
    · exact absurd rfl (short a b rest)

theorem length_pairs (run : List Char) : (pairs run).length = run.length / 2 := by
  induction run using pairs.induct with
  | case1 a b rest ih =>
    simp only [pairs, List.length_cons, ih]
    omega
  | case2 run short =>
    rcases run with _ | ⟨a, _ | ⟨b, rest⟩⟩
    · simp [pairs]
    · simp [pairs]
    · exact absurd rfl (short a b rest)

/-- Codes are read from every text that has their letters, in whatever case. -/
theorem pairs_of_upper (codes : ∀ mod ∈ mods, mod.IsCode)
    (upper : run.map Char.toUpper = concat mods) :
    pairs run = mods ∧ run.length % 2 = 0 ∧ ∀ c ∈ run, c.isAlpha = true := by
  induction mods generalizing run with
  | nil =>
    have nothing : run = [] := List.map_eq_nil_iff.mp upper
    simp [nothing, pairs]
  | cons mod mods ih =>
    obtain ⟨code, others⟩ := List.forall_mem_cons.mp codes
    obtain ⟨a, b, upperA, upperB, rfl⟩ := code.exists_letters
    have split : run.map Char.toUpper = a :: b :: concat mods := upper
    obtain ⟨c, rest, rfl, first, split⟩ := List.map_eq_cons_iff.mp split
    obtain ⟨d, rest, rfl, second, later⟩ := List.map_eq_cons_iff.mp split
    have letterC : c.isAlpha = true := isUpper_toUpper_iff.mp (first ▸ upperA)
    have letterD : d.isAlpha = true := isUpper_toUpper_iff.mp (second ▸ upperB)
    obtain ⟨same, even, letters⟩ := ih others later
    refine ⟨?_, ?_, by simpa [letterC, letterD] using letters⟩
    · rw [pairs, ofText_pair letterC letterD, first, second, same]
    · simp only [List.length_cons]
      omega

/-- Whether a text is a run of codes decides what is read from it, and one that is none is reported
as it stands between its white space. -/
theorem parseRun_eq (text : List Char) [Decidable (IsRun text)] :
    parseRun text =
      if IsRun text then .ok (pairs (Text.trim text))
      else .error (.invalidCode (Text.trim text)) := by
  have same : (Text.trim text).length % 2 = 0 ∧ (Text.trim text).all Char.isAlpha = true ↔
      IsRun text := by
    rw [IsRun, List.all_eq_true]
  simp only [parseRun, same]

theorem parseRun_eq_ok_iff :
    parseRun text = .ok mods ↔ IsRun text ∧ pairs (Text.trim text) = mods := by
  classical
  rw [parseRun_eq]
  split <;> simp_all

theorem parseRun_eq_error_iff {cause : ParseError} :
    parseRun text = .error cause ↔ ¬ IsRun text ∧ cause = .invalidCode (Text.trim text) := by
  classical
  rw [parseRun_eq]
  split <;> simp_all [eq_comm]

theorem exists_parseRun_iff : (∃ mods, parseRun text = .ok mods) ↔ IsRun text := by
  simp [parseRun_eq_ok_iff]

/-- A single code is read from two letters in either case with white space around them, and from
nothing else. -/
theorem parse_eq_ok_iff :
    parse text = .ok mod ↔ ∃ a b, Text.trim text = [a, b] ∧ a.isAlpha = true ∧ b.isAlpha = true ∧
      mod = ⟨[a.toUpper, b.toUpper]⟩ := by
  simp only [parse]
  constructor
  · intro read
    split at read
    next a b whole =>
      split at read
      next letters =>
        obtain ⟨first, second⟩ := Bool.and_eq_true_iff.mp letters
        cases read
        exact ⟨a, b, whole, first, second, ofText_pair first second⟩
      next => cases read
    next => cases read
  · rintro ⟨a, b, whole, first, second, rfl⟩
    simp only [whole, first, second, Bool.and_self, if_true, ofText_pair first second]

theorem isCode_of_parseRun (read : parseRun text = .ok mods) : ∀ mod ∈ mods, mod.IsCode := by
  obtain ⟨isRun, rfl⟩ := parseRun_eq_ok_iff.mp read
  by_cases nothing : Text.trim text = []
  · simp [nothing, pairs]
  · have spelled := spellsMods_iff.mpr ⟨isCodeRun_iff.mpr ⟨nothing, isRun⟩, rfl⟩
    exact spelled.isCode

/-- A text is one code exactly if it is a run of one code. -/
theorem parse_eq_ok_iff_parseRun : parse text = .ok mod ↔ parseRun text = .ok [mod] := by
  rw [parse_eq_ok_iff, parseRun_eq_ok_iff, IsRun]
  constructor
  · rintro ⟨a, b, whole, first, second, rfl⟩
    rw [whole]
    exact ⟨⟨by simp, by simp [first, second]⟩, by simp [pairs, ofText_pair first second]⟩
  · rintro ⟨⟨even, letters⟩, single⟩
    have length := length_pairs (Text.trim text)
    rw [single, List.length_singleton] at length
    obtain ⟨a, b, whole⟩ := List.length_eq_two.mp (by omega : (Text.trim text).length = 2)
    rw [whole] at letters single
    have first := letters a (by simp)
    have second := letters b (by simp)
    rw [pairs, ofText_pair first second] at single
    exact ⟨a, b, whole, first, second, (List.cons.inj single).1.symm⟩

theorem isCode_of_parse (read : parse text = .ok mod) : mod.IsCode :=
  isCode_of_parseRun (parse_eq_ok_iff_parseRun.mp read) mod (List.mem_singleton_self mod)

/-- Each slice of two letters of a run is read as the modifier in its place. -/
theorem parse_slice (letters : ∀ c ∈ run, c.isAlpha = true) {place : Nat}
    (found : (pairs run)[place]? = some mod) : parse ((run.drop (2 * place)).take 2) = .ok mod := by
  induction run using pairs.induct generalizing place with
  | case1 a b rest ih =>
    cases place with
    | zero =>
      have first := letters a (by simp)
      have second := letters b (by simp)
      obtain rfl : ofText [a, b] = mod := by simpa [pairs] using found
      have trimmed : Text.trim [a, b] = [a, b] :=
        Text.trim_eq_self (isTrimmed_of_letters (by simp [first, second]))
      exact parse_eq_ok_iff.mpr ⟨a, b, trimmed, first, second, ofText_pair first second⟩
    | succ place =>
      have later := ih (fun c member => letters c (by simp [member])) (by simpa [pairs] using found)
      rwa [Nat.mul_succ, List.drop_succ_cons, List.drop_succ_cons]
  | case2 run short =>
    rw [pairs.eq_2 run short] at found
    cases found

/-- A run of codes may be written in either case, as long as its upper-case form is the joined
codes. -/
theorem parseRun_of_upper (codes : ∀ mod ∈ mods, mod.IsCode)
    (upper : (Text.trim text).map Char.toUpper = concat mods) : parseRun text = .ok mods := by
  obtain ⟨same, even, letters⟩ := pairs_of_upper codes upper
  exact parseRun_eq_ok_iff.mpr ⟨⟨even, letters⟩, same⟩

theorem trim_concat (codes : ∀ mod ∈ mods, mod.IsCode) : Text.trim (concat mods) = concat mods := by
  refine Text.trim_eq_self (isTrimmed_of_letters fun c member => ?_)
  obtain ⟨mod, inMods, inMod⟩ := List.mem_flatMap.mp member
  exact isAlpha_of_isUpper ((codes mod inMods).2 c inMod)

theorem map_toUpper_concat (codes : ∀ mod ∈ mods, mod.IsCode) :
    (concat mods).map Char.toUpper = concat mods := by
  refine (List.map_congr_left fun c member => ?_).trans (List.map_id _)
  obtain ⟨mod, inMods, inMod⟩ := List.mem_flatMap.mp member
  exact toUpper_of_isUpper ((codes mod inMods).2 c inMod)

/-- The joined codes of modifiers are read back as these modifiers in their order. -/
theorem parseRun_concat (codes : ∀ mod ∈ mods, mod.IsCode) : parseRun (concat mods) = .ok mods := by
  refine parseRun_of_upper codes ?_
  rw [trim_concat codes, map_toUpper_concat codes]

/-- A run is read inside a filter exactly if it is not empty, has no white space around it and is
read on its own. -/
theorem readCodes_eq_ok_iff_parseRun :
    readCodes run = .ok mods ↔ run ≠ [] ∧ Text.trim run = run ∧ parseRun run = .ok mods := by
  have readable : readCodes run = .ok mods ↔ isCodeRun run = true ∧ pairs run = mods := by
    rw [readCodes_eq_ok_iff, spellsMods_iff]
  rw [readable, isCodeRun_iff, parseRun_eq_ok_iff, IsRun]
  constructor
  · rintro ⟨⟨some, even, letters⟩, same⟩
    rw [Text.trim_eq_self (isTrimmed_of_letters letters)]
    exact ⟨some, rfl, ⟨even, letters⟩, same⟩
  · rintro ⟨some, trimmed, isRun, same⟩
    rw [trimmed] at isRun same
    exact ⟨⟨some, isRun⟩, same⟩

end Mod

theorem isCode_of_mem_applied {mods : List Mod} {mod : Mod} (codes : ∀ mod ∈ mods, mod.IsCode)
    (member : mod ∈ applied mods) : mod.IsCode :=
  codes mod (List.mem_filter.mp member).1

theorem isCode_of_parseCandidate {text : List Char} {mods : List Mod}
    (read : parseCandidate text = .ok mods) : ∀ mod ∈ mods, mod.IsCode := by
  obtain ⟨run, parsed, rfl⟩ := map_eq_ok_iff.mp read
  exact fun mod => isCode_of_mem_applied (Mod.isCode_of_parseRun parsed)

end ScoreSieve
