import ScoreSieve.Proofs.Core
import ScoreSieve.Proofs.Negation
import ScoreSieve.Proofs.OnlyNoMod

namespace ScoreSieve

variable {a b mod : Mod}

namespace Rules

variable {pairs : List (Mod × Mod)} {filter image : Filter}

/-- What is prohibited stays prohibited. -/
theorem prohibited_interchangeAll
    (banned : ∀ pattern ∈ filter.patterns, mod ∈ pattern.modsOf .prohibited) :
    ∀ pattern ∈ (interchangeAll pairs filter).patterns, mod ∈ pattern.modsOf .prohibited := by
  refine forall_mem_interchangeAll banned (fun _ _ _ pattern prohibited => ?_)
    fun _ _ _ pattern prohibited => ?_
  · exact Pattern.mem_modsOf_prohibited_merge.mpr (.inl prohibited)
  · rwa [Pattern.modsOf_exchange (.inr rfl)]

/-- Once no pattern requires a modifier, no later pair brings that demand back. A pair asks for one
of its two modifiers by choice and never requires it. -/
theorem unrequired_interchangeAll_of_forall
    (kept : ∀ pattern ∈ filter.patterns, mod ∉ pattern.modsOf .required) :
    ∀ pattern ∈ (interchangeAll pairs filter).patterns, mod ∉ pattern.modsOf .required := by
  refine forall_mem_interchangeAll kept (fun _ _ _ pattern unrequired required => ?_)
    fun _ _ _ pattern unrequired => ?_
  · exact unrequired (Pattern.mem_modsOf_required_merge.mp required).1
  · rwa [Pattern.modsOf_exchange (.inl rfl)]

/-- Once a pair has made a modifier a synonym, no pattern requires it. -/
theorem unrequired_interchangeAll (synonym : HasSynonym pairs mod) :
    ∀ pattern ∈ (interchangeAll pairs filter).patterns, mod ∉ pattern.modsOf .required := by
  induction pairs generalizing filter with
  | nil => simp [HasSynonym] at synonym
  | cons pair pairs ih =>
    obtain ⟨named, member, different, same⟩ := synonym
    rcases List.mem_cons.mp member with rfl | inPairs
    · have replaced : ∀ pattern ∈ (filter.interchange named.1 named.2).patterns,
          mod ∉ pattern.modsOf .required := by
        have merged (origin : Pattern) :
            mod ∉ (origin.merge named.1 named.2).modsOf .required := by
          rw [Pattern.mem_modsOf_required_merge]
          rintro ⟨_, notFirst, notSecond⟩
          exact same.elim notFirst notSecond
        intro pattern made
        obtain ⟨origin, _, rfl | rfl⟩ := (Filter.mem_interchange_iff different).mp made
        · exact merged origin
        · rw [Pattern.modsOf_exchange (.inl rfl)]
          exact merged origin
      rw [interchangeAll_cons]
      exact unrequired_interchangeAll_of_forall replaced
    · exact ih ⟨named, inPairs, different, same⟩

/-- Filters whose patterns have the same cores still have the same cores after any pairs of
synonyms. -/
theorem matched_interchangeAll (pairs : List (Mod × Mod))
    (matched : Matched (Pattern.SameCore mod) filter.patterns image.patterns) :
    Matched (Pattern.SameCore mod) (interchangeAll pairs filter).patterns
      (interchangeAll pairs image).patterns := by
  induction pairs generalizing filter image with
  | nil => exact matched
  | cons pair pairs ih =>
    exact ih (Filter.matched_interchange matched (fun _ _ same => same.merge)
      fun _ _ same => same.exchange_merge)

end Rules

/-- A filter that prohibits something in every pattern is not the filter `+NM`, so the rule for the
legacy modifier adds no alternative to it. -/
theorem Filter.ne_onlyNoMod_of_prohibited {filter : Filter}
    (banned : ∀ pattern ∈ filter.patterns, mod ∈ pattern.modsOf .prohibited) :
    filter ≠ onlyNoMod := by
  rintro rfl
  have prohibited := banned (Pattern.requiring Mod.noMod) (List.mem_singleton_self _)
  simp [Pattern.requiring, Pattern.groupsOf] at prohibited

namespace Pattern

/-- Holds if the pattern requires the modifier and prohibits it as well. -/
structure Contradicts (pattern : Pattern) (mod : Mod) : Prop where
  required : mod ∈ pattern.modsOf .required
  prohibited : mod ∈ pattern.modsOf .prohibited

namespace Contradicts

variable {pattern : Pattern} (contradicts : pattern.Contradicts mod)

include contradicts

theorem not_admits (mods : Finset Mod) : ¬ pattern.Admits mods := by
  intro admits
  obtain ⟨group, inGroups, listed⟩ := mem_modsOf.mp contradicts.required
  exact admits.prohibited mod contradicts.prohibited (admits.required group inGroups mod listed)

/-- Unless it is inverted, a pattern that contradicts itself accepts no candidate at all. -/
theorem accepts_eq_false (upright : pattern.inverted = false) (candidate : List Mod) :
    pattern.accepts candidate = false := by
  rw [accepts_eq_evaluate, evaluate_eq_meaning, meaning, upright,
    decide_eq_false (contradicts.not_admits _), Bool.xor_false]

/-- A pair that does not name the modifier leaves its demand in a required group. -/
theorem merge (notFirst : mod ≠ a) (notSecond : mod ≠ b) : (pattern.merge a b).Contradicts mod where
  required := mem_modsOf_required_merge.mpr ⟨contradicts.required, notFirst, notSecond⟩
  prohibited := mem_modsOf_prohibited_merge.mpr (.inl contradicts.prohibited)

theorem exchange : (pattern.exchange a b).Contradicts mod where
  required := by
    rw [modsOf_exchange (.inl rfl)]
    exact contradicts.required
  prohibited := by
    rw [modsOf_exchange (.inr rfl)]
    exact contradicts.prohibited

theorem permit (legacy : Mod) : (pattern.permit legacy).Contradicts mod where
  required := by
    rw [modsOf_permit .required (by decide)]
    exact contradicts.required
  prohibited := by
    rw [modsOf_permit .prohibited (by decide)]
    exact contradicts.prohibited

end Contradicts

/-- Where a modifier is prohibited anyway, requiring it or not makes no difference to the core. -/
theorem sameCore_unrequire {pattern : Pattern} (prohibited : mod ∈ pattern.modsOf .prohibited) :
    SameCore mod (pattern.unrequire mod) pattern where
  core := pattern.core_unrequire mod
  left := by rwa [modsOf_prohibited_unrequire]
  right := prohibited

end Pattern

/-- A contradiction about a modifier that is no synonym survives every pair of the profile. -/
theorem Rules.contradicts_interchangeAll {pairs : List (Mod × Mod)} {filter : Filter}
    (none : ¬ HasSynonym pairs mod)
    (contradicts : ∀ pattern ∈ filter.patterns, pattern.Contradicts mod) :
    ∀ pattern ∈ (interchangeAll pairs filter).patterns, pattern.Contradicts mod := by
  refine forall_mem_interchangeAll contradicts (fun pair inPairs different pattern kept => ?_)
    fun _ _ _ pattern kept => kept.exchange
  refine kept.merge (fun same => ?_) fun same => ?_
  · exact none ⟨pair, inPairs, different, .inl same⟩
  · exact none ⟨pair, inPairs, different, .inr same⟩

/-- A contradiction under the rules of a profile. A pattern that requires and prohibits the same
modifier matches nothing, whatever the rules, unless a pair makes that modifier a synonym. If one
does, the pattern matches what it matches without the modifier in its required groups. -/
theorem contradiction_kept_unless_synonym (rules : Rules) (pattern : Pattern)
    (upright : pattern.inverted = false) {mod : Mod} (required : mod ∈ pattern.modsOf .required)
    (prohibited : mod ∈ pattern.modsOf .prohibited) (candidate : List Mod) :
    (¬ Rules.HasSynonym rules.synonyms mod →
      (rules.apply ⟨[pattern], false⟩).accepts candidate = false) ∧
    (Rules.HasSynonym rules.synonyms mod →
      (rules.apply ⟨[pattern], false⟩).accepts candidate =
        (rules.apply ⟨[pattern.unrequire mod], false⟩).accepts candidate) := by
  let written : Filter := ⟨[pattern], false⟩
  let reduced : Filter := ⟨[pattern.unrequire mod], false⟩
  have same : Pattern.SameCore mod (pattern.unrequire mod) pattern :=
    Pattern.sameCore_unrequire prohibited
  have other : Rules.interchangeAll rules.synonyms written ≠ Filter.onlyNoMod :=
    Filter.ne_onlyNoMod_of_prohibited
      (Rules.prohibited_interchangeAll (by simpa [written] using same.right))
  refine ⟨fun none => ?_, fun synonym => ?_⟩
  · have plain : written.IsPlain := ⟨List.cons_ne_nil _ _, by simpa [written] using upright, rfl⟩
    have contradicts : ∀ origin ∈ (Rules.interchangeAll rules.synonyms written).patterns,
        origin.Contradicts mod := Rules.contradicts_interchangeAll none fun origin member => by
      rw [List.mem_singleton.mp member]
      exact ⟨required, prohibited⟩
    rw [(Rules.isPlain_apply plain).refuses_iff, Rules.apply_eq_map other]
    intro made member
    obtain ⟨origin, inPatterns, rfl⟩ := List.mem_map.mp member
    have sign := (plain.interchangeAll rules.synonyms).patterns origin inPatterns
    have kept := contradicts origin inPatterns
    split
    · exact (kept.permit rules.legacyMod).accepts_eq_false (by rwa [Pattern.inverted_permit]) _
    · exact kept.accepts_eq_false sign _
  · have otherReduced : Rules.interchangeAll rules.synonyms reduced ≠ Filter.onlyNoMod :=
      Filter.ne_onlyNoMod_of_prohibited
        (Rules.prohibited_interchangeAll (by simpa [reduced] using same.left))
    have single : Matched (Pattern.SameCore mod) reduced.patterns written.patterns :=
      .singleton same
    have matched := Rules.matched_interchangeAll rules.synonyms single
    rw [Rules.apply_eq_map other, Rules.apply_eq_map otherReduced]
    refine Filter.accepts_eq_of_matched (by simp [written, reduced])
      (matched.with_members.map fun origin partner related => ?_)
    obtain ⟨sameCore, inReduced, inWritten⟩ := related
    have unrequired := Rules.unrequired_interchangeAll synonym origin inReduced
    have partnerUnrequired := Rules.unrequired_interchangeAll synonym partner inWritten
    split
    · exact sameCore.meaning_permit_eq unrequired partnerUnrequired _ _
    · exact sameCore.meaning_eq unrequired partnerUnrequired _

/-- In the base profile with the legacy modifier let in, `+FLHD{HD}` refuses even `FLHD`, as no pair
names `HD`. Of `+FLDT{DT}` there remains what the profile makes of `+FL{DT}`, which matches
`FLCL`. -/
theorem contradiction_kept_unless_synonym_in_base :
    let rules : Rules := { allowLegacy := true }
    let flashlight : Mod := ⟨['F', 'L']⟩
    let hidden : Mod := ⟨['H', 'D']⟩
    let doubleTime : Mod := ⟨['D', 'T']⟩
    let kept : Pattern := ⟨[Group.ofMods .required [flashlight, hidden],
      Group.ofMods .prohibited [hidden]], false⟩
    let lost : Pattern := ⟨[Group.ofMods .required [flashlight, doubleTime],
      Group.ofMods .prohibited [doubleTime]], false⟩
    (kept.inverted = false ∧ hidden ∈ kept.modsOf .required ∧ hidden ∈ kept.modsOf .prohibited ∧
      ¬ Rules.HasSynonym rules.synonyms hidden ∧
      (rules.apply ⟨[kept], false⟩).accepts [flashlight, hidden] = false) ∧
    lost.inverted = false ∧ doubleTime ∈ lost.modsOf .required ∧
      doubleTime ∈ lost.modsOf .prohibited ∧ Rules.HasSynonym rules.synonyms doubleTime ∧
      (rules.apply ⟨[lost], false⟩).accepts [flashlight, Mod.classic] =
        (rules.apply ⟨[lost.unrequire doubleTime], false⟩).accepts [flashlight, Mod.classic] ∧
      (rules.apply ⟨[lost], false⟩).accepts [flashlight, Mod.classic] = true := by
  intro rules flashlight hidden doubleTime kept lost
  have none : ¬ Rules.HasSynonym rules.synonyms hidden := by decide
  have synonym : Rules.HasSynonym rules.synonyms doubleTime := by decide
  have ofKept : hidden ∈ kept.modsOf .required ∧ hidden ∈ kept.modsOf .prohibited := by decide
  have ofLost : doubleTime ∈ lost.modsOf .required ∧ doubleTime ∈ lost.modsOf .prohibited := by
    decide
  have refused := contradiction_kept_unless_synonym rules kept rfl ofKept.1 ofKept.2
    [flashlight, hidden]
  have reduced := contradiction_kept_unless_synonym rules lost rfl ofLost.1 ofLost.2
    [flashlight, Mod.classic]
  exact ⟨⟨rfl, ofKept.1, ofKept.2, none, refused.1 none⟩, rfl, ofLost.1, ofLost.2, synonym,
    reduced.2 synonym, by decide⟩

/-- A contradiction does not survive in general. The base profile makes `+{DTNC}[DTNC]` of
`+DT{DT}`, a prohibition with a dead choice beside it, and that matches `HD`. -/
theorem contradiction_lost_by_synonym :
    let rules : Rules := {}
    let doubleTime : Mod := ⟨['D', 'T']⟩
    let pattern : Pattern := ⟨[Group.ofMods .required [doubleTime],
      Group.ofMods .prohibited [doubleTime]], false⟩
    pattern.inverted = false ∧ doubleTime ∈ pattern.modsOf .required ∧
      doubleTime ∈ pattern.modsOf .prohibited ∧
      ¬ (rules.apply ⟨[pattern], false⟩).accepts [⟨['H', 'D']⟩] = false := by
  decide

end ScoreSieve
