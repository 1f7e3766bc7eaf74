import ScoreSieve.Proofs.Cutting
import ScoreSieve.Proofs.Steps

namespace ScoreSieve

theorem isTrimmed_of_letters {run : List Char} (letters : ∀ c ∈ run, c.isAlpha = true) :
    Text.IsTrimmed run where
  first c start := Text.isBlank_of_isAlpha (letters c (List.mem_of_mem_head? start))
  last c stop := Text.isBlank_of_isAlpha (letters c (List.mem_of_getLast? stop))

theorem Mod.ofText_pair {a b : Char} (first : a.isAlpha = true) (second : b.isAlpha = true) :
    Mod.ofText [a, b] = ⟨[a.toUpper, b.toUpper]⟩ := by
  rw [ofText, Text.trim_eq_self (isTrimmed_of_letters (by simp [first, second]))]
  rfl

/-- A run of codes is made of letters, an even number of them and more than none. -/
theorem isCodeRun_iff {run : List Char} :
    isCodeRun run = true ↔ run ≠ [] ∧ run.length % 2 = 0 ∧ ∀ c ∈ run, c.isAlpha = true := by
  simp [isCodeRun, and_assoc]

/-- Within a run of codes the white space rules and the tests of the run reader do nothing. -/
theorem readCodes_eq (run : List Char) :
    readCodes run =
      if isCodeRun run then .ok (Mod.pairs run) else .error (.invalidCode run) := by
  unfold readCodes
  split
  next isRun =>
    obtain ⟨_, even, letters⟩ := isCodeRun_iff.mp isRun
    have trimmed := Text.trim_eq_self (isTrimmed_of_letters letters)
    simp only [Mod.parseRun, trimmed]
    rw [if_pos ⟨even, List.all_eq_true.mpr letters⟩]
  next => rfl

/-- Letters two by two spell the modifiers that are read of them in pairs. A run of fewer than two
letters is empty or odd. -/
theorem spellsMods_iff {run : List Char} {mods : List Mod} :
    SpellsMods run mods ↔ isCodeRun run = true ∧ Mod.pairs run = mods := by
  constructor
  · intro spelled
    induction spelled with
    | last first second => simp [isCodeRun, Mod.pairs, Mod.ofText_pair, first, second]
    | next first second _ ih =>
      obtain ⟨isRun, same⟩ := ih
      obtain ⟨_, even, letters⟩ := isCodeRun_iff.mp isRun
      refine ⟨isCodeRun_iff.mpr ⟨List.cons_ne_nil _ _, ?_, ?_⟩, ?_⟩
      · simp only [List.length_cons]
        omega
      · simpa [first, second] using letters
      · rw [Mod.pairs, Mod.ofText_pair first second, same]
  · rintro ⟨isRun, rfl⟩
    induction run using Mod.pairs.induct with
    | case1 a b rest ih =>
      obtain ⟨_, even, letters⟩ := isCodeRun_iff.mp isRun
      have first := letters a (by simp)
      have second := letters b (by simp)
      rw [Mod.pairs, Mod.ofText_pair first second]
      by_cases more : rest = []
      · subst more
        exact .last first second
      · refine .next first second (ih (isCodeRun_iff.mpr ⟨more, ?_, ?_⟩))
        · simp only [List.length_cons] at even
          omega
        · exact fun c member => letters c (by simp [member])
    | case2 run short =>
      obtain ⟨some, even, _⟩ := isCodeRun_iff.mp isRun
      match run with
      | [] => exact absurd rfl some
      | [_] => simp at even
      | a :: b :: rest => exact absurd rfl (short a b rest)

theorem readCodes_eq_ok_iff {run : List Char} {mods : List Mod} :
    readCodes run = .ok mods ↔ SpellsMods run mods := by
  rw [readCodes_eq, spellsMods_iff]
  split <;> simp_all

theorem readGroups_nil (body : List Char) : readGroups body [] = .ok [] := by
  rw [readGroups]
  rfl

/-- The run at the front of a body is read first, and what stands behind it afterwards. -/
theorem readGroups_cut {body left run after : List Char} {kind : Kind}
    (cut : cutRun? left = some (kind, run, after)) :
    readGroups body left = (do
      let mods ← readCodes run
      let groups ← readGroups body after
      return Group.ofMods kind mods :: groups) := by
  have some : left.isEmpty = false := by
    cases left with
    | nil => simp [cutRun?] at cut
    | cons => rfl
  rw [readGroups, some]
  simp only [Bool.false_eq_true, if_false]
  split
  next none => simp [cut] at none
  next other =>
    rw [cut] at other
    cases other
    rfl

/-- What follows a bare run starts with a bracket, if with anything. -/
theorem SpellsGroups.head_isBracket {rest : List Char} {groups : List Group}
    (spelled : SpellsGroups rest groups) (ends : ∀ c ∈ rest.head?, c.isAlpha = false) :
    ∀ c ∈ rest.head?, isBracket c = true := by
  intro c start
  rcases spelled.chars c (List.mem_of_mem_head? start) with letter | bracket
  · rw [ends c start] at letter
    exact absurd letter Bool.false_ne_true
  · exact bracket

/-- Every body that spells groups is read as these groups. The induction follows the spelling from
the front. -/
theorem readGroups_of_spelled {body left : List Char} {groups : List Group}
    (spelled : SpellsGroups left groups) : readGroups body left = .ok groups := by
  induction spelled with
  | nil => exact readGroups_nil body
  | bare mods ends rest ih =>
    have free := fun c member => isBracket_of_isAlpha (mods.letters c member)
    rw [readGroups_cut (FirstRun.bare mods.ne_nil free (rest.head_isBracket ends)).cut,
      readCodes_eq_ok_iff.mpr mods, ih]
    rfl
  | bracketed brackets mods _ ih =>
    have free := fun c member => isBracket_of_isAlpha (mods.letters c member)
    rw [readGroups_cut (FirstRun.bracketed brackets mods.ne_nil free).cut,
      readCodes_eq_ok_iff.mpr mods, ih]
    rfl

theorem readGroups_uncut {body left : List Char} (some : left.isEmpty = false)
    (cut : cutRun? left = none) : readGroups body left = .error (.invalidGroup body) := by
  rw [readGroups, some]
  simp only [Bool.false_eq_true, if_false]
  split
  next => rfl
  next other => simp [cut] at other

/-- Whatever groups are read, the body spells them. The induction is on the body, which gets shorter
with every cut. -/
theorem spelled_of_readGroups {body left : List Char} {groups : List Group}
    (read : readGroups body left = .ok groups) : SpellsGroups left groups := by
  induction left using readGroups.induct generalizing groups with
  | case1 left empty =>
    rw [List.isEmpty_iff] at empty
    subst empty
    rw [readGroups_nil] at read
    cases read
    exact .nil
  | case2 left some uncut =>
    rw [readGroups_uncut (by simpa using some) uncut] at read
    simp at read
  | case3 left _ kind run after cut ih =>
    rw [readGroups_cut cut] at read
    obtain ⟨mods, codes, read⟩ := bind_eq_ok_iff.mp read
    obtain ⟨others, later, same⟩ := bind_eq_ok_iff.mp read
    cases same
    have spelled := readCodes_eq_ok_iff.mp codes
    cases cutRun?_eq_some_iff.mp cut with
    | bare _ _ stop =>
      refine .bare spelled ?_ (ih later)
      intro c start
      rw [← Bool.not_eq_true]
      intro letter
      exact absurd (stop c start) (by simp [isBracket_of_isAlpha letter])
    | bracketed brackets => exact .bracketed brackets spelled (ih later)

theorem readGroups_eq_ok_iff {body left : List Char} {groups : List Group} :
    readGroups body left = .ok groups ↔ SpellsGroups left groups :=
  ⟨spelled_of_readGroups, readGroups_of_spelled⟩

namespace Pattern

/-- A body gives a pattern if it spells at least one group. -/
theorem ofBody_eq_ok_iff {position : Nat} {inverted : Bool} {body : List Char} {pattern : Pattern} :
    ofBody position inverted body = .ok pattern ↔
      SpellsGroups body pattern.groups ∧ pattern.groups ≠ [] ∧ pattern.inverted = inverted := by
  rw [ofBody, bind_eq_ok_iff]
  constructor
  · rintro ⟨groups, read, made⟩
    cases groups with
    | nil => simp at made
    | cons group groups =>
      cases made
      exact ⟨readGroups_eq_ok_iff.mp read, List.cons_ne_nil _ _, rfl⟩
  · rintro ⟨spelled, some, rfl⟩
    refine ⟨pattern.groups, readGroups_eq_ok_iff.mpr spelled, ?_⟩
    rw [if_neg (by simpa using some)]
    rfl

theorem parseAt_plain {text : List Char} (plain : text.head? ≠ some '^') (position : Nat) :
    parseAt position text = ofBody position false text := by
  unfold parseAt
  split
  · simp at plain
  · rfl

/-- No pattern body starts with the mark of inversion. -/
theorem head_of_spelled {body : List Char} {groups : List Group}
    (spelled : SpellsGroups body groups) : body.head? ≠ some '^' := by
  intro caret
  rcases spelled.chars '^' (List.mem_of_mem_head? caret) with letter | bracket
  · simp at letter
  · simp [isBracket] at bracket

/-- Reading a pattern at some position succeeds exactly if the text spells it. The position matters
to errors only. -/
theorem parseAt_eq_ok_iff {position : Nat} {text : List Char} {pattern : Pattern} :
    parseAt position text = .ok pattern ↔ SpellsPattern text pattern := by
  constructor
  · intro read
    obtain ⟨groups, inverted⟩ := pattern
    by_cases caret : text.head? = some '^'
    · obtain ⟨body, rfl⟩ := List.head?_eq_some_iff.mp caret
      obtain ⟨spelled, some, rfl⟩ := ofBody_eq_ok_iff.mp read
      exact .inverted spelled some
    · rw [parseAt_plain caret] at read
      obtain ⟨spelled, some, rfl⟩ := ofBody_eq_ok_iff.mp read
      exact .plain spelled some
  · intro spelled
    cases spelled with
    | plain spelled some =>
      rw [parseAt_plain (head_of_spelled spelled)]
      exact ofBody_eq_ok_iff.mpr ⟨spelled, some, rfl⟩
    | inverted spelled some => exact ofBody_eq_ok_iff.mpr ⟨spelled, some, rfl⟩

end Pattern

/-- Patterns are read one by one, and each from the piece that spells it. -/
theorem readPatterns_eq_ok_iff {position : Nat} {pieces : List (List Char)}
    {patterns : List Pattern} :
    readPatterns position pieces = .ok patterns ↔ List.Forall₂ SpellsPattern pieces patterns := by
  induction pieces generalizing position patterns with
  | nil =>
    rw [readPatterns, List.forall₂_nil_left_iff, Except.ok.injEq, eq_comm]
  | cons piece pieces ih =>
    rw [readPatterns, bind_eq_ok_iff, List.forall₂_cons_left_iff]
    constructor
    · rintro ⟨pattern, first, read⟩
      obtain ⟨others, later, same⟩ := bind_eq_ok_iff.mp read
      cases same
      exact ⟨pattern, others, Pattern.parseAt_eq_ok_iff.mp first, ih.mp later, rfl⟩
    · rintro ⟨pattern, others, first, later, rfl⟩
      refine ⟨pattern, Pattern.parseAt_eq_ok_iff.mpr first, ?_⟩
      rw [ih.mpr later]
      rfl

theorem SpellsPattern.chars {text : List Char} {pattern : Pattern}
    (spelled : SpellsPattern text pattern) :
    ∀ c ∈ text, c.isAlpha = true ∨ isBracket c = true ∨ c = '^' := by
  intro c member
  cases spelled with
  | plain spelled => exact (spelled.chars c member).imp_right .inl
  | inverted spelled =>
    rcases List.mem_cons.mp member with rfl | inBody
    · exact .inr (.inr rfl)
    · exact (spelled.chars c inBody).imp_right .inl

/-- No pattern has a comma in it, so the commas of a filter part its patterns. -/
theorem comma_not_mem_of_chars {text : List Char}
    (chars : ∀ c ∈ text, c.isAlpha = true ∨ isBracket c = true ∨ c = '^') : ',' ∉ text := by
  intro member
  rcases chars ',' member with letter | bracket | caret
  · simp at letter
  · simp [isBracket] at bracket
  · simp at caret

/-- The pieces between the commas of a body are the ones that spell its patterns. -/
theorem readPatterns_splitOn_iff {body : List Char} {patterns : List Pattern} :
    readPatterns 0 (body.splitOn ',') = .ok patterns ↔
      ∃ pieces, List.Forall₂ SpellsPattern pieces patterns ∧ pieces ≠ [] ∧
        body = [','].intercalate pieces := by
  rw [readPatterns_eq_ok_iff]
  constructor
  · intro spelled
    exact ⟨_, spelled, List.splitOn_ne_nil _ _, (List.intercalate_splitOn _).symm⟩
  · rintro ⟨pieces, spelled, some, rfl⟩
    have free : ∀ piece ∈ pieces, ',' ∉ piece := by
      intro piece member
      obtain ⟨pattern, spells⟩ := (exists_spelled spelled).1 piece member
      exact comma_not_mem_of_chars spells.chars
    rwa [List.splitOn_intercalate _ free some]

/-- A filter is read from a text exactly if the text spells it between its white space. -/
theorem Filter.parse_eq_ok_iff {text : List Char} {filter : Filter} :
    Filter.parse text = .ok filter ↔ SpellsFilter (Text.trim text) filter := by
  unfold Filter.parse
  constructor
  · intro read
    split at read
    next body written =>
      obtain ⟨patterns, pieces, rfl⟩ := map_eq_ok_iff.mp read
      obtain ⟨pieces, spelled, some, rfl⟩ := readPatterns_splitOn_iff.mp pieces
      rw [written]
      exact .plain spelled some
    next body written =>
      obtain ⟨patterns, pieces, rfl⟩ := map_eq_ok_iff.mp read
      obtain ⟨pieces, spelled, some, rfl⟩ := readPatterns_splitOn_iff.mp pieces
      rw [written]
      exact .inverted spelled some
    next => simp at read
  · intro spelled
    generalize Text.trim text = written at spelled
    cases spelled with
    | plain spelled some =>
      exact map_eq_ok_iff.mpr
        ⟨_, readPatterns_splitOn_iff.mpr ⟨_, spelled, some, rfl⟩, rfl⟩
    | inverted spelled some =>
      exact map_eq_ok_iff.mpr
        ⟨_, readPatterns_splitOn_iff.mpr ⟨_, spelled, some, rfl⟩, rfl⟩

theorem chars_intercalate {pieces : List (List Char)}
    (chars : ∀ piece ∈ pieces, ∀ c ∈ piece, c.isAlpha = true ∨ isBracket c = true ∨ c = '^') :
    ∀ c ∈ [','].intercalate pieces,
      c.isAlpha = true ∨ isBracket c = true ∨ c ∈ ['^', ',', '+', '-'] := by
  intro c member
  rcases Text.mem_of_mem_intercalate member with separator | ⟨piece, inPieces, inPiece⟩
  · obtain rfl := List.mem_singleton.mp separator
    simp
  · exact (chars piece inPieces c inPiece).imp_right (.imp_right (by simp +contextual))

/-- The characters in which filters are written. -/
theorem SpellsFilter.chars {text : List Char} {filter : Filter}
    (spelled : SpellsFilter text filter) :
    ∀ c ∈ text, c.isAlpha = true ∨ isBracket c = true ∨ c ∈ ['^', ',', '+', '-'] := by
  have ofPieces {pieces : List (List Char)} {patterns : List Pattern}
      (spelled : List.Forall₂ SpellsPattern pieces patterns) :
      ∀ piece ∈ pieces, ∀ c ∈ piece, c.isAlpha = true ∨ isBracket c = true ∨ c = '^' := by
    intro piece inPieces
    obtain ⟨pattern, spells⟩ := (exists_spelled spelled).1 piece inPieces
    exact spells.chars
  intro c member
  cases spelled with
  | plain spelled =>
    rcases List.mem_cons.mp member with rfl | inBody
    · simp
    · exact chars_intercalate (ofPieces spelled) c inBody
  | inverted spelled =>
    rcases List.mem_cons.mp member with rfl | inBody
    · simp
    · exact chars_intercalate (ofPieces spelled) c inBody

theorem isTrimmed_of_chars {text : List Char}
    (chars : ∀ c ∈ text, c.isAlpha = true ∨ isBracket c = true ∨ c ∈ ['^', ',', '+', '-']) :
    Text.IsTrimmed text := by
  have solid : ∀ c ∈ text, Text.isBlank c = false := by
    intro c member
    rcases chars c member with letter | bracket | mark
    · exact Text.isBlank_of_isAlpha letter
    · rcases isBracket_iff.mp bracket with rfl | rfl | rfl | rfl | rfl | rfl <;> decide
    · simp only [List.mem_cons, List.not_mem_nil, or_false] at mark
      rcases mark with rfl | rfl | rfl | rfl <;> decide
  exact ⟨fun c start => solid c (List.mem_of_mem_head? start),
    fun c stop => solid c (List.mem_of_getLast? stop)⟩

theorem SpellsFilter.isTrimmed {text : List Char} {filter : Filter}
    (spelled : SpellsFilter text filter) : Text.IsTrimmed text :=
  isTrimmed_of_chars spelled.chars

/-- The strict mark is no part of a filter, so it can only end an expression. -/
theorem SpellsFilter.strictMark_not_mem {text : List Char} {filter : Filter}
    (spelled : SpellsFilter text filter) : '!' ∉ text := by
  intro member
  rcases spelled.chars '!' member with letter | bracket | mark
  · simp at letter
  · simp [isBracket] at bracket
  · simp at mark

/-- The text before a strict mark is a filter exactly if it spells one in front of white space. -/
theorem spellsExpression_strict_iff {text : List Char} {filter : Filter}
    (first : ∀ c ∈ (text ++ ['!']).head?, Text.isBlank c = false) :
    SpellsExpression (text ++ ['!']) ⟨filter, true⟩ ↔ SpellsFilter (Text.trim text) filter := by
  constructor
  · intro spelled
    generalize whole : text ++ ['!'] = marked at spelled
    cases spelled with
    | @strict core blanks _ spelled blank =>
      obtain ⟨rfl, _⟩ := List.append_inj' whole rfl
      have inner : Text.trim ([] ++ core ++ blanks) = core :=
        Text.trim_surrounded (by simp) spelled.isTrimmed blank
      rw [List.nil_append] at inner
      rwa [inner]
  · intro spelled
    obtain ⟨before, after, blanksBefore, blanksAfter, split⟩ := Text.exists_blanks_trim text
    have none : before = [] := by
      cases before with
      | nil => rfl
      | cons c before =>
        rw [split] at first
        have solid := first c rfl
        rw [blanksBefore c (by simp)] at solid
        exact absurd solid (by decide)
    subst none
    rw [List.nil_append] at split
    have marked := SpellsExpression.strict spelled blanksAfter
    rwa [← split] at marked

theorem Filter.parse_of_spelled {text : List Char} {filter : Filter}
    (spelled : SpellsFilter text filter) : Filter.parse text = .ok filter := by
  rw [Filter.parse_eq_ok_iff, Text.trim_eq_self spelled.isTrimmed]
  exact spelled

/-- An expression is read from a text exactly if the text spells it between its white space. -/
theorem Expression.parse_eq_ok_iff {text : List Char} {expression : Expression} :
    Expression.parse text = .ok expression ↔ SpellsExpression (Text.trim text) expression := by
  obtain ⟨filter, strict⟩ := expression
  have trimmed := Text.isTrimmed_trim text
  generalize whole : Text.trim text = written at trimmed
  simp only [Expression.parse, whole]
  split
  next marked =>
    obtain ⟨before, rfl⟩ := List.getLast?_eq_some_iff.mp marked
    rw [List.dropLast_concat, map_eq_ok_iff]
    constructor
    · rintro ⟨_, read, same⟩
      cases same
      exact (spellsExpression_strict_iff trimmed.first).mpr (Filter.parse_eq_ok_iff.mp read)
    · intro spelled
      cases strict with
      | false =>
        have markIn : '!' ∈ before ++ ['!'] := by simp
        generalize before ++ ['!'] = written at spelled markIn
        cases spelled with
        | lenient spelled => exact absurd markIn spelled.strictMark_not_mem
      | true =>
        have filtered := (spellsExpression_strict_iff trimmed.first).mp spelled
        exact ⟨filter, Filter.parse_eq_ok_iff.mpr filtered, rfl⟩
  next unmarked =>
    rw [map_eq_ok_iff]
    constructor
    · rintro ⟨_, read, same⟩
      cases same
      rw [Filter.parse_eq_ok_iff, Text.trim_eq_self trimmed] at read
      exact .lenient read
    · intro spelled
      cases spelled with
      | lenient spelled => exact ⟨filter, Filter.parse_of_spelled spelled, rfl⟩
      | strict => simp at unmarked

theorem SpellsExpression.isTrimmed {text : List Char} {expression : Expression}
    (spelled : SpellsExpression text expression) : Text.IsTrimmed text := by
  cases spelled with
  | lenient spelled => exact spelled.isTrimmed
  | strict spelled =>
    refine ⟨?_, ?_⟩
    · have solid := spelled.isTrimmed.first
      cases spelled <;> exact solid
    · intro c stop
      rw [List.getLast?_concat, Option.mem_some_iff] at stop
      rw [← stop]
      decide

theorem Expression.parse_of_spelled {text : List Char} {expression : Expression}
    (spelled : SpellsExpression text expression) : Expression.parse text = .ok expression := by
  rw [Expression.parse_eq_ok_iff, Text.trim_eq_self spelled.isTrimmed]
  exact spelled

/-- Reading accepts the texts of the grammar, up to white space around them, and no others, and it
returns what they spell. -/
theorem parse_accepts_grammar :
    (∀ (text : List Char) (filter : Filter),
      Filter.parse text = .ok filter ↔ SpellsFilter (Text.trim text) filter) ∧
    ∀ (text : List Char) (expression : Expression),
      Expression.parse text = .ok expression ↔ SpellsExpression (Text.trim text) expression :=
  ⟨fun _ _ => Filter.parse_eq_ok_iff, fun _ _ => Expression.parse_eq_ok_iff⟩

end ScoreSieve
