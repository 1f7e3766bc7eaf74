import Mathlib.Data.List.Forall2

namespace ScoreSieve

variable {ε δ α β : Type}

theorem bind_eq_ok_iff {x : Except ε α} {f : α → Except ε β} {b : β} :
    x >>= f = .ok b ↔ ∃ a, x = .ok a ∧ f a = .ok b := by
  cases x with
  | error => simp [bind, Except.bind]
  | ok a => simp [bind, Except.bind]

theorem bind_eq_error_iff {x : Except ε α} {f : α → Except ε β} {e : ε} :
    x >>= f = .error e ↔ x = .error e ∨ ∃ a, x = .ok a ∧ f a = .error e := by
  cases x with
  | error => simp [bind, Except.bind]
  | ok a => simp [bind, Except.bind]

theorem map_eq_ok_iff {x : Except ε α} {f : α → β} {b : β} :
    x.map f = .ok b ↔ ∃ a, x = .ok a ∧ f a = b := by
  cases x with
  | error => simp [Except.map]
  | ok a => simp [Except.map]

theorem map_eq_error_iff {x : Except ε α} {f : α → β} {e : ε} :
    x.map f = .error e ↔ x = .error e := by
  cases x with
  | error => simp [Except.map]
  | ok a => simp [Except.map]

theorem mapError_eq_ok_iff {x : Except ε α} {f : ε → δ} {a : α} :
    x.mapError f = .ok a ↔ x = .ok a := by
  cases x with
  | error => simp [Except.mapError]
  | ok b => simp [Except.mapError]

theorem mapError_eq_error_iff {x : Except ε α} {f : ε → δ} {e : δ} :
    x.mapError f = .error e ↔ ∃ cause, x = .error cause ∧ f cause = e := by
  cases x with
  | error => simp [Except.mapError]
  | ok a => simp [Except.mapError]

/-- Holds if the step fails for the member at this place with this error, and for none before. -/
inductive FailsFirst (step : α → Except ε β) : List α → Nat → ε → Prop
  | here {a rest e} : step a = .error e → FailsFirst step (a :: rest) 0 e
  | later {a b rest position e} : step a = .ok b → FailsFirst step rest position e →
      FailsFirst step (a :: rest) (position + 1) e

variable {step : α → Except ε β} {l : List α}

theorem not_failsFirst_nil {position : Nat} {e : ε} : ¬ FailsFirst step [] position e := by
  intro fails
  cases fails

theorem exists_failsFirst_iff :
    (∃ position e, FailsFirst step l position e) ↔ ∃ a ∈ l, ∃ e, step a = .error e := by
  induction l with
  | nil => simp [not_failsFirst_nil]
  | cons a rest ih =>
    rw [List.exists_mem_cons_iff, ← ih]
    constructor
    · rintro ⟨_, e, first | ⟨_, fails⟩⟩
      · exact .inl ⟨e, first⟩
      · exact .inr ⟨_, e, fails⟩
    · rintro (⟨e, first⟩ | ⟨position, e, fails⟩)
      · exact ⟨0, e, .here first⟩
      · cases first : step a with
        | error e => exact ⟨0, e, .here first⟩
        | ok b => exact ⟨position + 1, e, .later first fails⟩

/-- The first failure is the one at the place before which every step succeeds. -/
theorem failsFirst_iff {place : Nat} {e : ε} :
    FailsFirst step l place e ↔ ∃ a, l[place]? = some a ∧ step a = .error e ∧
      ∀ before < place, ∀ b ∈ l[before]?, ∃ result, step b = .ok result := by
  induction l generalizing place with
  | nil => simp [not_failsFirst_nil]
  | cons first rest ih =>
    cases place with
    | zero =>
      constructor
      · rintro ⟨fails⟩
        exact ⟨first, rfl, fails, by simp⟩
      · rintro ⟨a, found, fails, _⟩
        cases found
        exact .here fails
    | succ place =>
      constructor
      · rintro (_ | ⟨passes, later⟩)
        obtain ⟨a, found, fails, earlier⟩ := ih.mp later
        refine ⟨a, found, fails, fun before less b atBefore => ?_⟩
        cases before with
        | zero =>
          cases atBefore
          exact ⟨_, passes⟩
        | succ before => exact earlier before (by omega) b atBefore
      · rintro ⟨a, found, fails, earlier⟩
        obtain ⟨result, passes⟩ := earlier 0 (by omega) first rfl
        refine .later passes (ih.mpr ⟨a, found, fails, fun before less b atBefore => ?_⟩)
        exact earlier (before + 1) (by omega) b atBefore

/-- Steps over a list give their results one by one. -/
theorem mapM_eq_ok_iff {results : List β} :
    l.mapM step = .ok results ↔ List.Forall₂ (fun a b => step a = .ok b) l results := by
  induction l generalizing results with
  | nil => simp [pure, Except.pure, eq_comm]
  | cons a rest ih =>
    rw [List.mapM_cons, bind_eq_ok_iff, List.forall₂_cons_left_iff]
    constructor
    · rintro ⟨b, first, others⟩
      obtain ⟨bs, later, same⟩ := bind_eq_ok_iff.mp others
      cases same
      exact ⟨b, bs, first, ih.mp later, rfl⟩
    · rintro ⟨b, bs, first, later, rfl⟩
      exact ⟨b, first, bind_eq_ok_iff.mpr ⟨bs, ih.mpr later, rfl⟩⟩

theorem mapM_eq_some_iff {step : α → Option β} {results : List β} :
    l.mapM step = some results ↔ List.Forall₂ (fun a b => step a = some b) l results := by
  induction l generalizing results with
  | nil => simp [eq_comm]
  | cons a rest ih =>
    simp only [List.mapM_cons, Option.bind_eq_bind, Option.bind_eq_some_iff, ih,
      List.forall₂_cons_left_iff, Option.pure_def, Option.some.injEq]
    constructor
    · rintro ⟨b, first, bs, later, rfl⟩
      exact ⟨b, bs, first, later, rfl⟩
    · rintro ⟨b, bs, first, later, rfl⟩
      exact ⟨b, first, bs, later, rfl⟩

theorem exists_of_forall₂ {R : α → β → Prop} {results : List β} {b : β}
    (related : List.Forall₂ R l results) (member : b ∈ results) : ∃ a ∈ l, R a b := by
  induction related with
  | nil => cases member
  | cons first _ ih =>
    rcases List.mem_cons.mp member with rfl | later
    · exact ⟨_, List.mem_cons_self, first⟩
    · obtain ⟨a, inRest, related⟩ := ih later
      exact ⟨a, List.mem_cons_of_mem _ inRest, related⟩

/-- Steps over a list end with the first error. -/
theorem mapM_eq_error_iff {e : ε} :
    l.mapM step = .error e ↔ ∃ position, FailsFirst step l position e := by
  induction l with
  | nil => simp [pure, Except.pure, not_failsFirst_nil]
  | cons a rest ih =>
    rw [List.mapM_cons, bind_eq_error_iff]
    constructor
    · rintro (first | ⟨b, first, others⟩)
      · exact ⟨0, .here first⟩
      · rcases bind_eq_error_iff.mp others with later | ⟨_, _, none⟩
        · obtain ⟨position, fails⟩ := ih.mp later
          exact ⟨position + 1, .later first fails⟩
        · cases none
    · rintro ⟨_, first | ⟨first, fails⟩⟩
      · exact .inl first
      · exact .inr ⟨_, first, bind_eq_error_iff.mpr (.inl (ih.mpr ⟨_, fails⟩))⟩

end ScoreSieve
