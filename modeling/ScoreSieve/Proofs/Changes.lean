import ScoreSieve.Proofs.Merging

namespace ScoreSieve

/-- One change to a group. -/
inductive Change
  | without (excluded : List Mod)
  | swap (a b : Mod)
  | add (mod : Mod)
  deriving DecidableEq, Repr

namespace Group

def change (group : Group) : Change → Group
  | .without excluded => group.without excluded
  | .swap a b => group.swap a b
  | .add mod => group.add mod

/-- The group that is left after changes, the first of which is carried out first. -/
def changeAll (group : Group) (changes : List Change) : Group :=
  changes.foldl change group

end Group

namespace Change

/-- What a change makes of a set of modifiers. -/
def onSet (mods : Finset Mod) : Change → Finset Mod
  | without excluded => mods \ excluded.toFinset
  | swap a b => if a ∈ mods then insert b (mods.erase a) else mods
  | add mod => insert mod mods

/-- Holds of the modifiers that a change may take away, bring in or move. -/
def concerns : Change → Mod → Bool
  | without excluded, mod => mod ∈ excluded
  | swap a b, mod => mod = a ∨ mod = b
  | add added, mod => mod = added

/-- Where a change puts what it brings in: in the first of the places that the two swapped modifiers
had, or behind everything else. Without `a` there is nothing to swap, and what is there is not
added. -/
def Places (before after : List Mod) : Change → Prop
  | without _ => True
  | swap a b =>
    if a ∈ before then after.idxOf b = min (before.idxOf a) (before.idxOf b) else after = before
  | add mod => after = if mod ∈ before then before else before ++ [mod]

/-- What a change does to modifiers in a row. -/
structure Acts (change : Change) (before after : List Mod) : Prop where
  members : after.toFinset = change.onSet before.toFinset
  /-- The modifiers that the change is not about keep their order. -/
  order : after.filter (!change.concerns ·) = before.filter (!change.concerns ·)
  places : change.Places before after

end Change

namespace Group

variable {group : Group} {a b : Mod}

theorem swap_eq_self (absent : a ∉ group.mods) : group.swap a b = group := by
  have same : group.mods.map (fun mod => if mod = a then b else mod) = group.mods := by
    refine (List.map_congr_left fun mod member => ?_).trans (List.map_id _)
    exact if_neg fun same : mod = a => absent (same ▸ member)
  refine eq_of_mods rfl ?_
  rw [swap, same, mods_ofMods _ group.nodup]

/-- The first of the two modifiers, whichever it is, with what stands before and behind it. -/
theorem exists_first_of_pair {mods : List Mod} (present : a ∈ mods) :
    ∃ front first back, mods = front ++ first :: back ∧ (first = a ∨ first = b) ∧
      a ∉ front ∧ b ∉ front := by
  have found : (mods.find? fun mod => mod = a ∨ mod = b).isSome := by
    rw [List.find?_isSome]
    exact ⟨a, present, by simp⟩
  obtain ⟨first, found⟩ := Option.isSome_iff_exists.mp found
  obtain ⟨isPair, front, back, split, free⟩ := List.find?_eq_some_iff_append.mp found
  refine ⟨front, first, back, split, by simpa using isPair, fun inFront => ?_, fun inFront => ?_⟩
  · simpa using free a inFront
  · simpa using free b inFront

/-- Swapped, `b` takes the place of the first of the two, and the other one goes. -/
theorem mods_swap_split {front back : List Mod} {first : Mod}
    (split : group.mods = front ++ first :: back) (isPair : first = a ∨ first = b)
    (notA : a ∉ front) (notB : b ∉ front) :
    (group.swap a b).mods = front ++ b :: back.filter fun mod => mod ≠ a ∧ mod ≠ b := by
  have nodup := group.nodup
  rw [split, List.nodup_append] at nodup
  obtain ⟨nodupFront, nodupRest, apart⟩ := nodup
  let turned : Mod → Mod := fun mod => if mod = a then b else mod
  have turnedFront : front.map turned = front := by
    refine (List.map_congr_left fun mod member => ?_).trans (List.map_id _)
    exact if_neg fun same : mod = a => notA (same ▸ member)
  have turnedFirst : turned first = b := by
    rcases isPair with rfl | rfl
    · exact if_pos rfl
    · exact ite_self _
  have turnedBack : (back.map turned).filter (fun mod => mod ∉ front ∧ mod ≠ b) =
      back.filter fun mod => mod ≠ a ∧ mod ≠ b := by
    rw [List.filter_map]
    have kept : back.filter ((fun mod => decide (mod ∉ front ∧ mod ≠ b)) ∘ turned) =
        back.filter fun mod => mod ≠ a ∧ mod ≠ b := by
      refine List.filter_congr fun mod member => ?_
      have fresh : mod ∉ front :=
        fun inFront => apart mod inFront mod (List.mem_cons_of_mem _ member) rfl
      by_cases isA : mod = a
      · simp [turned, isA]
      · simp [turned, isA, fresh]
    rw [kept]
    refine (List.map_congr_left fun mod member => ?_).trans (List.map_id _)
    have others : mod ≠ a ∧ mod ≠ b := by simpa using (List.mem_filter.mp member).2
    exact if_neg others.1
  have nodupBack : (back.filter fun mod => mod ≠ a ∧ mod ≠ b).Nodup :=
    (List.nodup_cons.mp nodupRest).2.filter _
  have listed : (group.swap a b).mods = distinct ((front ++ first :: back).map turned) := by
    rw [← split]
    rfl
  rw [listed, List.map_append, List.map_cons, turnedFront, turnedFirst, distinct_append,
    distinct_eq_self nodupFront, distinct, List.filter_cons_of_pos (by simpa using notB),
    List.filter_filter]
  have both : (fun mod => decide (mod ∉ front) && decide (mod ≠ b)) =
      fun mod => decide (mod ∉ front ∧ mod ≠ b) := by
    funext mod
    rw [Bool.decide_and]
  rw [both, filter_distinct, turnedBack, distinct_eq_self nodupBack]

/-- The modifier that is swapped in stands where the first of the two stood. -/
theorem idxOf_swap (present : a ∈ group.mods) :
    (group.swap a b).mods.idxOf b = min (group.mods.idxOf a) (group.mods.idxOf b) := by
  obtain ⟨front, first, back, split, isPair, notA, notB⟩ := exists_first_of_pair (b := b) present
  have place : (group.swap a b).mods.idxOf b = front.length := by
    rw [mods_swap_split split isPair notA notB, List.idxOf_append_of_notMem notB,
      List.idxOf_cons_self, Nat.add_zero]
  have placeA : group.mods.idxOf a = front.length + (first :: back).idxOf a := by
    rw [split, List.idxOf_append_of_notMem notA]
  have placeB : group.mods.idxOf b = front.length + (first :: back).idxOf b := by
    rw [split, List.idxOf_append_of_notMem notB]
  have firstPlace : (first :: back).idxOf a = 0 ∨ (first :: back).idxOf b = 0 := by
    rcases isPair with rfl | rfl
    · exact .inl List.idxOf_cons_self
    · exact .inr List.idxOf_cons_self
  omega

/-- A swap moves none of the modifiers that it is not about. -/
theorem filter_mods_swap (p : Mod → Bool) (idleA : p a = false) (idleB : p b = false) :
    (group.swap a b).mods.filter p = group.mods.filter p := by
  have kept : (group.mods.map fun mod => if mod = a then b else mod).filter p =
      group.mods.filter p := by
    induction group.mods with
    | nil => rfl
    | cons mod rest ih =>
      by_cases isA : mod = a
      · simp [isA, idleA, idleB, ih]
      · simp [isA, List.filter_cons, ih]
  rw [swap, ofMods, filter_distinct, kept, distinct_eq_self (group.nodup.filter _)]

theorem toFinset_swap (group : Group) (a b : Mod) :
    (group.swap a b).mods.toFinset = (Change.swap a b).onSet group.mods.toFinset := by
  simp only [Change.onSet]
  split
  next present =>
    ext mod
    have present : a ∈ group.mods := List.mem_toFinset.mp present
    simp [present]
  next absent => rw [swap_eq_self (by simpa using absent)]

/-- Every kind of change does to the modifiers of a group what it is meant to do, the places and the
order included. -/
theorem acts_change (group : Group) (change : Change) :
    change.Acts group.mods (group.change change).mods := by
  cases change with
  | without excluded =>
    refine ⟨?_, ?_, trivial⟩
    · ext mod
      simp [Group.change, Change.onSet]
    · simp [Group.change, without, Change.concerns]
  | swap a b =>
    refine ⟨group.toFinset_swap a b, ?_, ?_⟩
    · exact filter_mods_swap _ (by simp [Change.concerns]) (by simp [Change.concerns])
    · simp only [Change.Places]
      split
      next present => exact idxOf_swap present
      next absent => rw [Group.change, swap_eq_self absent]
  | add added =>
    have listed : (group.add added).mods =
        if added ∈ group.mods then group.mods else group.mods ++ [added] := by
      rw [mods_add]
      by_cases present : added ∈ group.mods <;> simp [present]
    refine ⟨?_, ?_, listed⟩
    · ext mod
      simp [Group.change, Change.onSet, or_comm]
    · rw [Group.change, listed]
      split
      · rfl
      · simp [Change.concerns]

theorem kind_change (group : Group) (change : Change) :
    (group.change change).kind = group.kind := by
  cases change <;> rfl

theorem changeAll_cons (group : Group) (change : Change) (changes : List Change) :
    group.changeAll (change :: changes) = (group.change change).changeAll changes := rfl

theorem kind_changeAll (group : Group) (changes : List Change) :
    (group.changeAll changes).kind = group.kind := by
  induction changes generalizing group with
  | nil => rfl
  | cons change changes ih => rw [changeAll_cons, ih, kind_change]

/-- A run of changes is a run of operations on the set of modifiers. -/
theorem toFinset_changeAll (group : Group) (changes : List Change) :
    (group.changeAll changes).mods.toFinset = changes.foldl Change.onSet group.mods.toFinset := by
  induction changes generalizing group with
  | nil => rfl
  | cons change changes ih =>
    rw [changeAll_cons, ih, (group.acts_change change).members, List.foldl_cons]

end Group

/-- Whatever a group goes through after it is made of a list of modifiers, it keeps its kind and
holds no modifier twice. Its modifiers are those that the operations on sets leave of the listed
ones, and one more change acts on them as the operation that it names. -/
theorem changes_act_on_sets (kind : Kind) (mods : List Mod) (changes : List Change) :
    let group := (Group.ofMods kind mods).changeAll changes
    group.kind = kind ∧ group.mods.Nodup ∧
      group.mods.toFinset = changes.foldl Change.onSet mods.toFinset ∧
      ∀ change : Change, change.Acts group.mods (group.change change).mods := by
  intro group
  have start : (Group.ofMods kind mods).mods.toFinset = mods.toFinset := by
    ext mod
    simp
  refine ⟨Group.kind_changeAll _ changes, group.nodup, ?_, group.acts_change⟩
  rw [Group.toFinset_changeAll, start]

example : ((Group.ofMods .optional [⟨['N', 'C']⟩, ⟨['H', 'D']⟩, ⟨['D', 'T']⟩]).change
    (.swap ⟨['D', 'T']⟩ ⟨['N', 'C']⟩)).mods = [⟨['N', 'C']⟩, ⟨['H', 'D']⟩] := by decide

end ScoreSieve
