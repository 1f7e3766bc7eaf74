import ScoreSieve.Proofs.Reading

namespace ScoreSieve

/-- Holds of a non-empty run of letters that can be read two by two. -/
def IsEvenRun (run : List Char) : Prop :=
  run ≠ [] ∧ run.length % 2 = 0 ∧ ∀ c ∈ run, c.isAlpha = true

/-- The first fault of what is left of a body: a misplaced bracket concerns the whole body, and a
run that names no codes concerns that run. -/
inductive FirstFault (body : List Char) : List Char → ParseError → Prop
  | bracket {left} : MisplacedBracket left → FirstFault body left (.invalidGroup body)
  | code {left kind run after} : FirstRun left kind run after → ¬ IsEvenRun run →
      FirstFault body left (.invalidCode run)
  | later {left kind run after error} : FirstRun left kind run after → IsEvenRun run →
      FirstFault body after error → FirstFault body left error

/-- A run is refused if it is not made of letters two by two, and then it is reported as a whole. -/
theorem readCodes_eq_error_iff {run : List Char} {error : ParseError} :
    readCodes run = .error error ↔ ¬ IsEvenRun run ∧ error = .invalidCode run := by
  rw [readCodes_eq, IsEvenRun, ← isCodeRun_iff]
  split
  next isRun => simp [isRun]
  next notRun => simp [notRun, eq_comm]

theorem exists_readCodes_iff {run : List Char} :
    (∃ mods, readCodes run = .ok mods) ↔ IsEvenRun run := by
  rw [readCodes_eq, IsEvenRun, ← isCodeRun_iff]
  split
  next isRun => simp [isRun]
  next notRun => simp [notRun]

/-- One run read: the fault of a body is that of its first run or lies behind it. -/
theorem firstFault_iff {body left run after : List Char} {kind : Kind} {error : ParseError}
    (first : FirstRun left kind run after) :
    FirstFault body left error ↔
      ¬ IsEvenRun run ∧ error = .invalidCode run ∨
        IsEvenRun run ∧ FirstFault body after error := by
  constructor
  · intro fault
    cases fault with
    | bracket misplaced => exact absurd first misplaced.not_firstRun
    | code second uneven =>
      obtain ⟨rfl, rfl⟩ := first.unique second
      exact .inl ⟨uneven, rfl⟩
    | later second even fault =>
      obtain ⟨rfl, rfl⟩ := first.unique second
      exact .inr ⟨even, fault⟩
  · rintro (⟨uneven, rfl⟩ | ⟨even, fault⟩)
    · exact .code first uneven
    · exact .later first even fault

theorem not_firstFault_nil {body : List Char} {error : ParseError} :
    ¬ FirstFault body [] error := by
  intro fault
  cases fault with
  | bracket misplaced => cases misplaced
  | code first => exact not_firstRun_nil first
  | later first => exact not_firstRun_nil first

/-- What is reported of a body is its first fault from the left. -/
theorem readGroups_eq_error_iff {body left : List Char} {error : ParseError} :
    readGroups body left = .error error ↔ FirstFault body left error := by
  induction left using readGroups.induct generalizing error with
  | case1 left empty =>
    rw [List.isEmpty_iff] at empty
    subst empty
    rw [readGroups_nil]
    exact iff_of_false (by simp) not_firstFault_nil
  | case2 left some uncut =>
    have misplaced := (cutRun?_eq_none_iff (by simpa using some)).mp uncut
    rw [readGroups_uncut (by simpa using some) uncut, Except.error.injEq]
    constructor
    · rintro rfl
      exact .bracket misplaced
    · intro fault
      cases fault with
      | bracket => rfl
      | code first => exact absurd first misplaced.not_firstRun
      | later first => exact absurd first misplaced.not_firstRun
  | case3 left _ kind run after cut ih =>
    rw [readGroups_cut cut, firstFault_iff (cutRun?_eq_some_iff.mp cut), bind_eq_error_iff,
      readCodes_eq_error_iff, ← exists_readCodes_iff, ← ih, ← exists_and_right]
    refine or_congr_right (exists_congr fun mods => and_congr_right fun _ => ?_)
    rw [bind_eq_error_iff]
    simp [pure, Except.pure]

/-- A piece without the mark of inversion in front. -/
def bodyOf : List Char → List Char
  | '^' :: body => body
  | body => body

theorem bodyOf_plain {piece : List Char} (plain : piece.head? ≠ some '^') :
    bodyOf piece = piece := by
  unfold bodyOf
  split
  · simp at plain
  · rfl

/-- The fault of a piece at a place: it is empty but for the mark of inversion, or its body has a
fault. -/
inductive PieceFault (position : Nat) (piece : List Char) : ParseError → Prop
  | empty : bodyOf piece = [] → PieceFault position piece (.emptyPattern position)
  | body {error} : FirstFault (bodyOf piece) (bodyOf piece) error → PieceFault position piece error

def IsPattern (piece : List Char) : Prop :=
  ∃ pattern, SpellsPattern piece pattern

namespace Pattern

theorem parseAt_eq_ofBody (position : Nat) (piece : List Char) :
    ∃ inverted, parseAt position piece = ofBody position inverted (bodyOf piece) := by
  by_cases caret : piece.head? = some '^'
  · obtain ⟨body, rfl⟩ := List.head?_eq_some_iff.mp caret
    exact ⟨true, rfl⟩
  · rw [parseAt_plain caret, bodyOf_plain caret]
    exact ⟨false, rfl⟩

theorem ofBody_eq_error_iff {position : Nat} {inverted : Bool} {body : List Char}
    {error : ParseError} : ofBody position inverted body = .error error ↔
      body = [] ∧ error = .emptyPattern position ∨ FirstFault body body error := by
  rw [ofBody, bind_eq_error_iff, readGroups_eq_error_iff, or_comm]
  refine or_congr_left ⟨?_, ?_⟩
  · rintro ⟨groups, read, fails⟩
    cases groups with
    | nil =>
      have spelled := readGroups_eq_ok_iff.mp read
      cases fails
      cases spelled
      exact ⟨rfl, rfl⟩
    | cons => simp [pure, Except.pure] at fails
  · rintro ⟨rfl, rfl⟩
    exact ⟨[], readGroups_nil [], rfl⟩

/-- What is reported of a piece between commas is the fault of that piece. -/
theorem parseAt_eq_error_iff {position : Nat} {piece : List Char} {error : ParseError} :
    parseAt position piece = .error error ↔ PieceFault position piece error := by
  obtain ⟨inverted, same⟩ := parseAt_eq_ofBody position piece
  rw [same, ofBody_eq_error_iff]
  constructor
  · rintro (⟨none, rfl⟩ | fault)
    · exact .empty none
    · exact .body fault
  · intro fault
    cases fault with
    | empty none => exact .inl ⟨none, rfl⟩
    | body fault => exact .inr fault

end Pattern

theorem PieceFault.not_isPattern {position : Nat} {piece : List Char} {error : ParseError}
    (fault : PieceFault position piece error) : ¬ IsPattern piece := by
  rintro ⟨pattern, spelled⟩
  have refused := Pattern.parseAt_eq_error_iff.mpr fault
  rw [Pattern.parseAt_eq_ok_iff.mpr spelled] at refused
  cases refused

/-- A piece that is no pattern has a fault. -/
theorem exists_pieceFault {piece : List Char} (position : Nat) (faulty : ¬ IsPattern piece) :
    ∃ error, PieceFault position piece error := by
  cases read : Pattern.parseAt position piece with
  | error error => exact ⟨error, Pattern.parseAt_eq_error_iff.mp read⟩
  | ok pattern => exact absurd ⟨pattern, Pattern.parseAt_eq_ok_iff.mp read⟩ faulty

/-- The first piece that is no pattern, with its place. -/
inductive FirstFaulty : List (List Char) → Nat → List Char → Prop
  | here {piece after} : ¬ IsPattern piece → FirstFaulty (piece :: after) 0 piece
  | later {first after position piece} : IsPattern first → FirstFaulty after position piece →
      FirstFaulty (first :: after) (position + 1) piece

theorem FirstFaulty.not_isPattern {pieces : List (List Char)} {position : Nat} {piece : List Char}
    (first : FirstFaulty pieces position piece) : ¬ IsPattern piece := by
  induction first with
  | here faulty => exact faulty
  | later _ _ ih => exact ih

/-- Among the pieces of a text, only one is the first that has a fault. -/
theorem FirstFaulty.unique {pieces : List (List Char)} {position other : Nat}
    {piece rival : List Char} (first : FirstFaulty pieces position piece)
    (second : FirstFaulty pieces other rival) : other = position ∧ rival = piece := by
  induction first generalizing other with
  | here faulty =>
    cases second with
    | here => exact ⟨rfl, rfl⟩
    | later spelled => exact absurd spelled faulty
  | later spelled _ ih =>
    cases second with
    | here faulty => exact absurd spelled faulty
    | later _ second =>
      obtain ⟨rfl, rfl⟩ := ih second
      exact ⟨rfl, rfl⟩

/-- Pieces are refused for the fault of the first of them that is no pattern. -/
theorem readPatterns_eq_error_iff {start : Nat} {pieces : List (List Char)} {error : ParseError} :
    readPatterns start pieces = .error error ↔
      ∃ position piece, FirstFaulty pieces position piece ∧
        PieceFault (start + position) piece error := by
  induction pieces generalizing start with
  | nil =>
    refine iff_of_false (by simp [readPatterns]) ?_
    rintro ⟨_, _, ⟨⟩, _⟩
  | cons first pieces ih =>
    rw [readPatterns, bind_eq_error_iff, Pattern.parseAt_eq_error_iff]
    constructor
    · rintro (fault | ⟨pattern, read, later⟩)
      · exact ⟨0, first, .here fault.not_isPattern, fault⟩
      · rcases bind_eq_error_iff.mp later with refused | ⟨_, _, none⟩
        · obtain ⟨position, piece, faulty, fault⟩ := ih.mp refused
          refine ⟨position + 1, piece,
            .later ⟨pattern, Pattern.parseAt_eq_ok_iff.mp read⟩ faulty, ?_⟩
          rwa [Nat.add_comm position, ← Nat.add_assoc]
        · cases none
    · rintro ⟨_, piece, faulty, fault⟩
      cases faulty with
      | here => exact .inl fault
      | later spelled faulty =>
        obtain ⟨pattern, spelled⟩ := spelled
        refine .inr ⟨pattern, Pattern.parseAt_eq_ok_iff.mpr spelled,
          bind_eq_error_iff.mpr (.inl (ih.mpr ⟨_, piece, faulty, ?_⟩))⟩
        rwa [Nat.add_assoc, Nat.add_comm 1]

/-- Behind its sign, a text is refused because of its first faulty piece. Pieces behind that one
have no part in the error. -/
theorem Filter.parse_eq_error_iff {text body : List Char} {sign : Char} {error : ParseError}
    (signed : Text.trim text = sign :: body) (valid : sign = '+' ∨ sign = '-') :
    Filter.parse text = .error error ↔
      ∃ position piece, FirstFaulty (body.splitOn ',') position piece ∧
        PieceFault position piece error := by
  have refused : Filter.parse text = .error error ↔
      readPatterns 0 (body.splitOn ',') = .error error := by
    unfold Filter.parse
    rw [signed]
    rcases valid with rfl | rfl
    · exact map_eq_error_iff
    · exact map_eq_error_iff
  rw [refused, readPatterns_eq_error_iff]
  simp only [Nat.zero_add]

/-- Holds of a body whose brackets belong together, whatever stands between them. -/
inductive WellBracketed : List Char → Prop
  | nil : WellBracketed []
  | run {left kind run after} : FirstRun left kind run after → WellBracketed after →
      WellBracketed left

/-- The runs of a body up to the first bracket that is misplaced. -/
inductive HasRun : List Char → List Char → Prop
  | here {left kind run after} : FirstRun left kind run after → HasRun left run
  | later {left kind first after run} : FirstRun left kind first after → HasRun after run →
      HasRun left run

/-- A body whose brackets match is never refused for its brackets. -/
theorem FirstFault.ne_invalidGroup {body left other : List Char} {error : ParseError}
    (fault : FirstFault body left error) (paired : WellBracketed left) :
    error ≠ .invalidGroup other := by
  induction paired with
  | nil => exact absurd fault not_firstFault_nil
  | run first _ ih =>
    rcases (firstFault_iff first).mp fault with ⟨_, rfl⟩ | ⟨_, later⟩
    · simp
    · exact ih later

/-- A body in which every run is even is never refused for a code. -/
theorem FirstFault.ne_invalidCode {body left other : List Char} {error : ParseError}
    (fault : FirstFault body left error) (even : ∀ run, HasRun left run → IsEvenRun run) :
    error ≠ .invalidCode other := by
  induction fault with
  | bracket => simp
  | code first uneven => exact absurd (even _ (.here first)) uneven
  | later first _ _ ih => exact ih fun run has => even run (.later first has)

theorem PieceFault.ne_invalidGroup {position : Nat} {piece other : List Char} {error : ParseError}
    (fault : PieceFault position piece error) (paired : WellBracketed (bodyOf piece)) :
    error ≠ .invalidGroup other := by
  cases fault with
  | empty => simp
  | body fault => exact fault.ne_invalidGroup paired

theorem PieceFault.ne_invalidCode {position : Nat} {piece other : List Char} {error : ParseError}
    (fault : PieceFault position piece error)
    (even : ∀ run, HasRun (bodyOf piece) run → IsEvenRun run) : error ≠ .invalidCode other := by
  cases fault with
  | empty => simp
  | body fault => exact fault.ne_invalidCode even

/-- A text with a sign is refused exactly for the first piece that is no pattern, with the first
fault of that piece. If the brackets of the piece belong together then they are not blamed, and if
its runs are runs of codes then none of them is. -/
theorem leftmost_fault_decides {text body : List Char} {sign : Char}
    (signed : Text.trim text = sign :: body) (valid : sign = '+' ∨ sign = '-') :
    (∀ error, Filter.parse text = .error error ↔
      ∃ position piece, FirstFaulty (body.splitOn ',') position piece ∧
        PieceFault position piece error) ∧
    ∀ position piece, FirstFaulty (body.splitOn ',') position piece →
      (∃ error, Filter.parse text = .error error) ∧
      (WellBracketed (bodyOf piece) →
        ∀ other, Filter.parse text ≠ .error (.invalidGroup other)) ∧
      ((∀ run, HasRun (bodyOf piece) run → IsEvenRun run) →
        ∀ run, Filter.parse text ≠ .error (.invalidCode run)) := by
  refine ⟨fun error => Filter.parse_eq_error_iff signed valid, fun position piece first => ?_⟩
  have blamed {error : ParseError} (refused : Filter.parse text = .error error) :
      PieceFault position piece error := by
    obtain ⟨_, _, second, fault⟩ := (Filter.parse_eq_error_iff signed valid).mp refused
    obtain ⟨rfl, rfl⟩ := first.unique second
    exact fault
  refine ⟨?_, ?_, ?_⟩
  · obtain ⟨error, fault⟩ := exists_pieceFault position first.not_isPattern
    exact ⟨error, (Filter.parse_eq_error_iff signed valid).mpr ⟨position, piece, first, fault⟩⟩
  · intro paired other refused
    exact (blamed refused).ne_invalidGroup paired rfl
  · intro even run refused
    exact (blamed refused).ne_invalidCode even rfl

/-- The odd run `HDD` of the second piece is named, and neither the bracket left open behind it nor
the stray one of the third piece. -/
theorem leftmost_fault_decides_at_second_piece :
    let text := " -hd,^(EZ)HDD\x7bNF,DT)".toList
    let body := "hd,^(EZ)HDD\x7bNF,DT)".toList
    let piece := "^(EZ)HDD\x7bNF".toList
    Text.trim text = '-' :: body ∧ FirstFaulty (body.splitOn ',') 1 piece ∧
      PieceFault 1 piece (.invalidCode "HDD".toList) ∧
      Filter.parse text = .error (.invalidCode "HDD".toList) ∧
      ∀ run, Filter.parse text = .error (.invalidCode run) → run = "HDD".toList := by
  intro text body piece
  have signed : Text.trim text = '-' :: body := by rfl
  have pieces : body.splitOn ',' = ["hd".toList, piece, "DT)".toList] := by rfl
  have optional : FirstRun "(EZ)HDD\x7bNF".toList .optional "EZ".toList "HDD\x7bNF".toList :=
    cutRun?_eq_some_iff.mp (by decide +kernel)
  have required : FirstRun "HDD\x7bNF".toList .required "HDD".toList "\x7bNF".toList :=
    cutRun?_eq_some_iff.mp (by decide +kernel)
  have even : IsEvenRun "EZ".toList := isCodeRun_iff.mp (by decide +kernel)
  have odd : ¬ IsEvenRun "HDD".toList := fun even => absurd even.2.1 (by decide)
  have unmarked : bodyOf piece = "(EZ)HDD\x7bNF".toList := by rfl
  have fault : PieceFault 1 piece (.invalidCode "HDD".toList) := by
    refine .body ?_
    rw [unmarked]
    exact .later optional even (.code required odd)
  have hidden : Pattern.parseAt 0 "hd".toList =
      .ok ⟨[Group.ofMods .required [⟨['H', 'D']⟩]], false⟩ := by decide +kernel
  have first : FirstFaulty (body.splitOn ',') 1 piece := by
    rw [pieces]
    exact .later ⟨_, Pattern.parseAt_eq_ok_iff.mp hidden⟩ (.here fault.not_isPattern)
  have refused := ((leftmost_fault_decides signed (.inr rfl)).1 _).mpr ⟨1, piece, first, fault⟩
  refine ⟨signed, first, fault, refused, fun run same => ?_⟩
  rw [refused] at same
  cases same
  rfl

end ScoreSieve
