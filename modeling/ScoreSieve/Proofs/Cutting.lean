import ScoreSieve.Proofs.Grammar

namespace ScoreSieve

/-- The first run of a body, with its kind and with what follows it: a bare run, which reaches up to
the next bracket, or what stands between two brackets that belong together. -/
inductive FirstRun : List Char → Kind → List Char → List Char → Prop
  | bare {run after} : run ≠ [] → (∀ c ∈ run, isBracket c = false) →
      (∀ c ∈ after.head?, isBracket c = true) → FirstRun (run ++ after) .required run after
  | bracketed {kind opening closing run after} : Kind.brackets? kind = some (opening, closing) →
      run ≠ [] → (∀ c ∈ run, isBracket c = false) →
      FirstRun (opening :: run ++ closing :: after) kind run after

/-- Holds of a text that starts with a bracket which does not belong there. -/
inductive MisplacedBracket : List Char → Prop
  | stray {kind opening closing after} : Kind.brackets? kind = some (opening, closing) →
      MisplacedBracket (closing :: after)
  | unclosed {kind opening closing rest} : Kind.brackets? kind = some (opening, closing) →
      closing ∉ rest → MisplacedBracket (opening :: rest)
  | empty {kind opening closing after} : Kind.brackets? kind = some (opening, closing) →
      MisplacedBracket (opening :: closing :: after)
  /-- Another bracket comes before the one that closes the first. -/
  | crossed {kind opening closing run after c} : Kind.brackets? kind = some (opening, closing) →
      closing ∉ run → c ∈ run → isBracket c = true →
      MisplacedBracket (opening :: run ++ closing :: after)

theorem exists_brackets_of_isBracket {c : Char} (bracket : isBracket c = true) :
    ∃ kind opening closing, Kind.brackets? kind = some (opening, closing) ∧
      (c = opening ∨ c = closing) := by
  rcases isBracket_iff.mp bracket with rfl | rfl | rfl | rfl | rfl | rfl
  · exact ⟨.optional, _, _, rfl, .inl rfl⟩
  · exact ⟨.optional, _, _, rfl, .inr rfl⟩
  · exact ⟨.exclusive, _, _, rfl, .inl rfl⟩
  · exact ⟨.exclusive, _, _, rfl, .inr rfl⟩
  · exact ⟨.prohibited, _, _, rfl, .inl rfl⟩
  · exact ⟨.prohibited, _, _, rfl, .inr rfl⟩

/-- A text without a misplaced bracket in front has a first run. -/
theorem exists_firstRun {left : List Char} (some : left ≠ [])
    (placed : ¬ MisplacedBracket left) : ∃ kind run after, FirstRun left kind run after := by
  cases left with
  | nil => exact absurd rfl some
  | cons first rest =>
    cases bracket : isBracket first with
    | false =>
      have whole : first :: rest =
          (first :: rest.takeWhile (!isBracket ·)) ++ rest.dropWhile (!isBracket ·) := by
        rw [List.cons_append, List.takeWhile_append_dropWhile]
      have stop := List.head?_dropWhile_not (!isBracket ·) rest
      rw [whole]
      refine ⟨.required, _, _, .bare (List.cons_ne_nil _ _)
        (List.forall_mem_cons.mpr ⟨bracket, fun c member => ?_⟩) fun c start => ?_⟩
      · simpa using List.mem_takeWhile_imp member
      · rw [Option.mem_def] at start
        rw [start] at stop
        simpa using stop
    | true =>
      obtain ⟨kind, opening, closing, brackets, rfl | rfl⟩ := exists_brackets_of_isBracket bracket
      · by_cases closed : closing ∈ rest
        · obtain ⟨run, after, rfl, absent⟩ := List.eq_append_cons_of_mem closed
          refine ⟨kind, run, after, .bracketed brackets ?_ fun c member => ?_⟩
          · rintro rfl
            exact placed (.empty brackets)
          · rw [← Bool.not_eq_true]
            exact fun bracket => placed (.crossed brackets absent member bracket)
        · exact absurd (.unclosed brackets closed) placed
      · exact absurd (.stray brackets) placed

theorem span_append {p : Char → Bool} {run rest : List Char} (all : ∀ c ∈ run, p c = true)
    (stop : ∀ c ∈ rest.head?, p c = false) :
    (run ++ rest).takeWhile p = run ∧ (run ++ rest).dropWhile p = rest := by
  rw [List.takeWhile_append_of_pos all, List.dropWhile_append_of_pos all]
  cases rest with
  | nil => simp
  | cons c rest =>
    have ends := stop c rfl
    simp [ends]

theorem closing?_eq_some_iff {kind : Kind} {opening closing : Char} :
    closing? opening = some (closing, kind) ↔ kind.brackets? = some (opening, closing) := by
  constructor
  · intro closes
    unfold closing? at closes
    split at closes <;> cases closes <;> rfl
  · intro brackets
    cases kind <;> cases brackets <;> rfl

theorem closing?_of_isBracket {c : Char} (other : isBracket c = false) : closing? c = none := by
  unfold closing?
  split
  · simp [isBracket] at other
  · simp [isBracket] at other
  · simp [isBracket] at other
  · rfl

/-- What follows an opening bracket is cut at the first bracket that closes it. -/
theorem cutRun?_opening {kind : Kind} {opening closing : Char} {run after : List Char}
    (brackets : kind.brackets? = some (opening, closing)) (absent : closing ∉ run) :
    cutRun? (opening :: run ++ closing :: after) =
      if run.isEmpty || run.any isBracket then none else some (kind, run, after) := by
  have other : ∀ c ∈ run, decide (c ≠ closing) = true := by
    simpa using fun c member (same : c = closing) => absent (same ▸ member)
  have span := @span_append (· ≠ closing) run (closing :: after) other (by simp)
  rw [List.cons_append, cutRun?]
  simp only [closing?_eq_some_iff.mpr brackets, span]

theorem FirstRun.cut {left run after : List Char} {kind : Kind}
    (first : FirstRun left kind run after) : cutRun? left = some (kind, run, after) := by
  cases first with
  | bare some free stop =>
    cases run with
    | nil => exact absurd rfl some
    | cons first run =>
      obtain ⟨firstFree, runFree⟩ := List.forall_mem_cons.mp free
      have span := @span_append (!isBracket ·) run after (by simpa using runFree)
        (by simpa using stop)
      rw [List.cons_append, cutRun?]
      simp only [closing?_of_isBracket firstFree, span, firstFree]
      rfl
  | @bracketed kind opening closing run after brackets some free =>
    have closes := (isBracket_of_brackets brackets).2
    have absent : closing ∉ run := by
      intro member
      rw [free closing member] at closes
      exact Bool.false_ne_true closes
    have sound : (run.isEmpty || run.any isBracket) = false := by
      simpa [some, List.any_eq_false] using free
    rw [cutRun?_opening brackets absent, sound]
    rfl

theorem MisplacedBracket.uncut {left : List Char} (misplaced : MisplacedBracket left) :
    cutRun? left = none := by
  cases misplaced with
  | @stray kind opening closing after brackets => cases kind <;> cases brackets <;> rfl
  | @unclosed kind opening closing rest brackets absent =>
    have none : rest.dropWhile (· ≠ closing) = [] := by
      rw [List.dropWhile_eq_nil_iff]
      intro c member
      simpa using fun same : c = closing => absent (same ▸ member)
    rw [cutRun?]
    simp only [closing?_eq_some_iff.mpr brackets, none]
  | @empty kind opening closing after brackets =>
    exact @cutRun?_opening kind opening closing [] after brackets List.not_mem_nil
  | @crossed kind opening closing run after c brackets absent member bracket =>
    have faulty : (run.isEmpty || run.any isBracket) = true := by
      rw [Bool.or_eq_true, List.any_eq_true]
      exact .inr ⟨c, member, bracket⟩
    rw [cutRun?_opening brackets absent, if_pos faulty]

theorem cutRun?_eq_some_iff {left run after : List Char} {kind : Kind} :
    cutRun? left = some (kind, run, after) ↔ FirstRun left kind run after := by
  refine ⟨fun cut => ?_, FirstRun.cut⟩
  have some : left ≠ [] := by
    rintro rfl
    cases cut
  have placed : ¬ MisplacedBracket left := by
    intro misplaced
    rw [misplaced.uncut] at cut
    cases cut
  obtain ⟨_, _, _, first⟩ := exists_firstRun some placed
  have same := first.cut.symm.trans cut
  cases same
  exact first

/-- A body that is not empty cannot be cut exactly if a misplaced bracket stands at its front. -/
theorem cutRun?_eq_none_iff {left : List Char} (some : left ≠ []) :
    cutRun? left = none ↔ MisplacedBracket left := by
  refine ⟨fun uncut => ?_, MisplacedBracket.uncut⟩
  by_contra placed
  obtain ⟨_, _, _, first⟩ := exists_firstRun some placed
  rw [first.cut] at uncut
  cases uncut

theorem MisplacedBracket.not_firstRun {left run after : List Char} {kind : Kind}
    (misplaced : MisplacedBracket left) : ¬ FirstRun left kind run after := by
  intro first
  have cut := first.cut
  rw [misplaced.uncut] at cut
  cases cut

theorem not_firstRun_nil {run after : List Char} {kind : Kind} :
    ¬ FirstRun [] kind run after := by
  intro first
  cases first.cut

theorem FirstRun.unique {left run after other rest : List Char} {kind otherKind : Kind}
    (first : FirstRun left kind run after) (second : FirstRun left otherKind other rest) :
    other = run ∧ rest = after := by
  have same := second.cut.symm.trans first.cut
  simp only [Option.some.injEq, Prod.mk.injEq] at same
  exact same.2

end ScoreSieve
