namespace ScoreSieve

variable {α : Type} [DecidableEq α]

/-- The members of a list in first-seen order, each once. -/
def distinct : List α → List α
  | [] => []
  | a :: rest => a :: (distinct rest).filter (· ≠ a)

@[simp] theorem mem_distinct {a : α} {l : List α} : a ∈ distinct l ↔ a ∈ l := by
  induction l with
  | nil => simp [distinct]
  | cons b rest ih =>
    by_cases same : a = b <;> simp [distinct, same, ih]

theorem nodup_distinct (l : List α) : (distinct l).Nodup := by
  induction l with
  | nil => exact List.nodup_nil
  | cons a rest ih =>
    refine List.nodup_cons.mpr ⟨by simp, List.Pairwise.filter _ ih⟩

theorem distinct_eq_self {l : List α} (nodup : l.Nodup) : distinct l = l := by
  induction l with
  | nil => rfl
  | cons a rest ih =>
    obtain ⟨fresh, nodup⟩ := List.nodup_cons.mp nodup
    rw [distinct, ih nodup, List.filter_eq_self.mpr]
    intro b member
    simpa using fun same : b = a => fresh (same ▸ member)

/-- Behind a list that has been read, only members that it did not have are new. -/
theorem distinct_append (l k : List α) :
    distinct (l ++ k) = distinct l ++ (distinct k).filter (· ∉ l) := by
  induction l with
  | nil => exact (List.filter_eq_self.mpr (by simp)).symm
  | cons a rest ih =>
    simp only [List.cons_append, distinct, ih, List.filter_append, List.filter_filter]
    simp

theorem distinct_append_of_subset {l k : List α} (seen : ∀ a ∈ k, a ∈ l) :
    distinct (l ++ k) = distinct l := by
  rw [distinct_append, List.filter_eq_nil_iff.mpr, List.append_nil]
  intro a member
  simpa using seen a (mem_distinct.mp member)

/-- Dropping repetitions and selecting members can change places. -/
theorem filter_distinct (p : α → Bool) (l : List α) :
    (distinct l).filter p = distinct (l.filter p) := by
  induction l with
  | nil => rfl
  | cons a rest ih =>
    by_cases passes : p a = true
    · rw [distinct, List.filter_cons_of_pos passes, List.filter_cons_of_pos passes, distinct, ← ih,
        List.filter_filter, List.filter_filter]
      simp only [Bool.and_comm]
    · rw [distinct, List.filter_cons_of_neg passes, List.filter_cons_of_neg passes, ← ih,
        List.filter_filter]
      refine List.filter_congr fun b _ => ?_
      by_cases same : b = a
      · simp [same, passes]
      · simp [same]

theorem distinct_flatMap_distinct {β : Type} (f : β → List α) (l : List β) :
    distinct (l.flatMap fun b => distinct (f b)) = distinct (l.flatMap f) := by
  induction l with
  | nil => rfl
  | cons b rest ih =>
    simp only [List.flatMap_cons, distinct_append, ih, mem_distinct,
      distinct_eq_self (nodup_distinct _)]

/-- The members stand in the order of their first places. -/
theorem pairwise_idxOf_distinct (l : List α) :
    (distinct l).Pairwise fun a b => l.idxOf a < l.idxOf b := by
  induction l with
  | nil => exact .nil
  | cons a rest ih =>
    have shifted {b : α} (other : b ≠ a) : (a :: rest).idxOf b = rest.idxOf b + 1 := by
      rw [List.idxOf_cons, beq_false_of_ne other.symm, cond_false]
    refine .cons (fun b later => ?_) ?_
    · have other : b ≠ a := by simpa using (List.mem_filter.mp later).2
      rw [shifted other, List.idxOf_cons_self]
      exact Nat.succ_pos _
    · refine (ih.filter _).imp_of_mem fun {b c} first second before => ?_
      have otherB : b ≠ a := by simpa using (List.mem_filter.mp first).2
      have otherC : c ≠ a := by simpa using (List.mem_filter.mp second).2
      rw [shifted otherB, shifted otherC]
      exact Nat.succ_lt_succ before

end ScoreSieve
