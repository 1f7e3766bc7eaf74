import ScoreSieve.Proofs.Presence

namespace ScoreSieve

theorem Outlook.invertedIf_eq_always_iff {outlook : Outlook} {inverted verdict : Bool} :
    outlook.invertedIf inverted = .always verdict ↔ outlook = .always (verdict ^^ inverted) := by
  cases outlook with
  | undecided => simp [invertedIf]
  | always decided => cases decided <;> cases inverted <;> cases verdict <;> simp [invertedIf]

namespace Pattern

theorem admits_of_optional {pattern : Pattern}
    (optional : ∀ group ∈ pattern.groups, group.kind = .optional) (candidate : List Mod) :
    pattern.admits (applied candidate) = true := by
  refine admits_iff.mpr ⟨?_, ?_⟩
  · intro group member
    rw [Group.Holds, optional group member]
    trivial
  · intro constrained
    obtain ⟨group, member, kind⟩ := isConstrained_iff.mp constrained
    simp [optional group member] at kind

/-- What is both required and prohibited is met by no candidate, `NM` included. -/
theorem admits_of_contradiction {pattern : Pattern} {mod : Mod}
    (required : mod ∈ pattern.modsOf .required) (prohibited : mod ∈ pattern.modsOf .prohibited)
    (candidate : List Mod) : pattern.admits (applied candidate) = false := by
  obtain ⟨demand, inDemand, listed⟩ := mem_modsOf.mp required
  obtain ⟨ban, inBan, banned⟩ := mem_modsOf.mp prohibited
  obtain ⟨memDemand, demandKind⟩ := mem_groupsOf.mp inDemand
  obtain ⟨memBan, banKind⟩ := mem_groupsOf.mp inBan
  rw [← Bool.not_eq_true]
  intro admitted
  have holds := (admits_iff.mp admitted).1
  have isPresent := holds demand memDemand
  have isAbsent := holds ban memBan
  simp only [Group.Holds, demandKind] at isPresent
  simp only [Group.Holds, banKind] at isAbsent
  exact isAbsent mod banned (isPresent mod listed)

/-- What the shape of a normal form decides in advance is the verdict that its groups give to every
candidate. -/
theorem admits_of_outlookOf {normal : Pattern} {verdict : Bool}
    (decided : outlookOf normal = .always verdict) (candidate : List Mod) :
    normal.admits (applied candidate) = verdict := by
  unfold outlookOf at decided
  split at decided
  next optional =>
    cases decided
    exact admits_of_optional (by simpa using optional) candidate
  next =>
    split at decided
    next contradiction =>
      cases decided
      obtain ⟨mod, required, prohibited⟩ := List.any_eq_true.mp contradiction
      exact admits_of_contradiction required (of_decide_eq_true prohibited) candidate
    next => simp at decided

/-- A pattern whose outlook is decided evaluates to that verdict for every candidate. -/
theorem evaluate_of_outlook {pattern : Pattern} {verdict : Bool}
    (decided : pattern.outlook = .always verdict) (candidate : List Mod) :
    pattern.evaluate candidate = verdict := by
  have groups := admits_of_outlookOf (Outlook.invertedIf_eq_always_iff.mp decided) candidate
  rw [evaluate, groups, Bool.xor_assoc, Bool.xor_self, Bool.xor_false]

/-- The verdict that may skip the groups is the one that looks at all of them. -/
theorem accepts_eq_evaluate (pattern : Pattern) (candidate : List Mod) :
    pattern.accepts candidate = pattern.evaluate candidate := by
  unfold accepts
  cases decided : pattern.outlook with
  | undecided => rfl
  | always verdict => exact (evaluate_of_outlook decided candidate).symm

end Pattern

namespace Filter

/-- The verdict that comes from evaluating every pattern in full, whatever the outlooks. -/
def evaluate (filter : Filter) (candidate : List Mod) : Bool :=
  filter.patterns.any (·.evaluate candidate) ^^ filter.inverted

/-- Alternatives whose outlook is decided agree with it for every candidate; a filter without
patterns counts as one that refuses nothing. -/
theorem any_evaluate_of_outlook {filter : Filter} {verdict : Bool}
    (decided : filter.outlook = .always verdict) (candidate : List Mod) :
    ((filter.patterns.isEmpty || filter.patterns.any (·.evaluate candidate)) ^^
      filter.inverted) = verdict := by
  have alternatives := Outlook.invertedIf_eq_always_iff.mp decided
  have value : (filter.patterns.isEmpty || filter.patterns.any (·.evaluate candidate)) =
      (verdict ^^ filter.inverted) := by
    split at alternatives
    next free =>
      rw [← Outlook.always.inj alternatives]
      rcases Bool.or_eq_true_iff.mp free with none | unrestricted
      · rw [none, Bool.true_or]
      · obtain ⟨pattern, member, always⟩ := List.any_eq_true.mp unrestricted
        have accepted := Pattern.evaluate_of_outlook (of_decide_eq_true always) candidate
        rw [List.any_eq_true.mpr ⟨pattern, member, accepted⟩, Bool.or_true]
    next restricted =>
      split at alternatives
      next never =>
        rw [← Outlook.always.inj alternatives, Bool.or_eq_false_iff]
        refine ⟨?_, ?_⟩
        · simp only [Bool.or_eq_true, not_or, Bool.not_eq_true] at restricted
          exact restricted.1
        · rw [List.any_eq_false]
          intro pattern member
          have refused := of_decide_eq_true (List.all_eq_true.mp never pattern member)
          rw [Pattern.evaluate_of_outlook refused candidate]
          exact Bool.false_ne_true
      next => simp at alternatives
  rw [value, Bool.xor_assoc, Bool.xor_self, Bool.xor_false]

/-- No shortcut of a filter can be seen from its verdicts: they are those of its patterns, each
evaluated in full. -/
theorem accepts_eq_any_evaluate (filter : Filter) (candidate : List Mod) :
    filter.accepts candidate =
      ((filter.patterns.isEmpty || filter.patterns.any (·.evaluate candidate)) ^^
        filter.inverted) := by
  unfold accepts
  cases decided : filter.outlook with
  | always verdict => exact (any_evaluate_of_outlook decided candidate).symm
  | undecided =>
    have some : filter.patterns.isEmpty = false := by
      rw [← Bool.not_eq_true]
      intro empty
      simp [outlook, empty, Outlook.invertedIf] at decided
    simp [Outlook.verdict?, some, Pattern.accepts_eq_evaluate]

end Filter

/-- No shortcut changes a verdict: a decided outlook of a pattern, or of a filter with patterns, is
what the full evaluation gives to every candidate, and it is the full evaluation that a filter with
patterns reports. -/
theorem outlook_changes_no_verdict :
    (∀ (pattern : Pattern) (verdict : Bool), pattern.outlook = .always verdict →
      ∀ candidate, (pattern.normalize.admits (applied candidate) ^^ pattern.inverted) = verdict) ∧
    ∀ filter : Filter, filter.patterns ≠ [] →
      (∀ candidate, filter.accepts candidate = filter.evaluate candidate) ∧
      ∀ verdict, filter.outlook = .always verdict →
        ∀ candidate, filter.evaluate candidate = verdict := by
  refine ⟨fun pattern verdict decided => Pattern.evaluate_of_outlook decided, ?_⟩
  intro filter some
  have occupied : filter.patterns.isEmpty = false := by simpa using some
  refine ⟨fun candidate => ?_, fun verdict decided candidate => ?_⟩
  · rw [Filter.accepts_eq_any_evaluate, occupied, Bool.false_or, Filter.evaluate]
  · have settled := Filter.any_evaluate_of_outlook decided candidate
    rwa [occupied, Bool.false_or] at settled

/-- The filter `-^CL{CL}` is decided in both ways at once: its pattern accepts every candidate, and
the filter accepts none. -/
theorem outlook_of_inverted_contradiction :
    let pattern : Pattern :=
      ⟨[Group.ofMods .required [Mod.classic], Group.ofMods .prohibited [Mod.classic]], true⟩
    let filter : Filter := ⟨[pattern], true⟩
    pattern.outlook = .always true ∧ filter.patterns ≠ [] ∧ filter.outlook = .always false ∧
      (pattern.normalize.admits (applied [Mod.classic]) ^^ pattern.inverted) = true ∧
      filter.accepts [Mod.noMod] = filter.evaluate [Mod.noMod] ∧
      filter.evaluate [Mod.classic] = false := by
  intro pattern filter
  have always : pattern.outlook = .always true := by decide
  have some : filter.patterns ≠ [] := by decide
  have never : filter.outlook = .always false := by decide
  obtain ⟨ofPattern, ofFilter⟩ := outlook_changes_no_verdict
  exact ⟨always, some, never, ofPattern pattern true always _, (ofFilter filter some).1 _,
    (ofFilter filter some).2 false never _⟩

end ScoreSieve
