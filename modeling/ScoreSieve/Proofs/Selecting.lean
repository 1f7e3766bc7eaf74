import ScoreSieve.Proofs.RoundTrip
import ScoreSieve.Proofs.Synonym
import ScoreSieve.Proofs.Unrestricted
import ScoreSieve.Score.Basic

namespace ScoreSieve

/-- Holds of the places of the first members of a list that pass a test, at most `limit` of them, in
the order of the list. -/
structure AreFirstPlaces {α : Type} (p : α → Bool) (l : List α) (limit : Nat) (places : List Nat) :
    Prop where
  order : places.Pairwise (· < ·)
  bound : places.length ≤ limit
  pass : ∀ place ∈ places, ∃ a, l[place]? = some a ∧ p a = true
  /-- What passes and is left out stands behind the full number. -/
  first : ∀ (place : Nat) (a : α), l[place]? = some a → p a = true → place ∉ places →
    places.length = limit ∧ ∀ taken ∈ places, taken < place

section Places

variable {α : Type} {p : α → Bool} {a : α} {l : List α} {limit : Nat} {places : List Nat}

theorem areFirstPlaces_nil : AreFirstPlaces p [] limit [] where
  order := .nil
  bound := Nat.zero_le _
  pass := by simp
  first := by simp

theorem areFirstPlaces_zero : AreFirstPlaces p l 0 [] where
  order := .nil
  bound := le_rfl
  pass := by simp
  first := by simp

/-- In front of a list, what fails the test moves the places by one. -/
theorem AreFirstPlaces.skip (first : AreFirstPlaces p l limit places) (fails : p a = false) :
    AreFirstPlaces p (a :: l) limit (places.map (· + 1)) where
  order := List.pairwise_map.mpr (first.order.imp Nat.succ_lt_succ)
  bound := by simpa using first.bound
  pass := by simpa using first.pass
  first := by
    intro place other found passes left
    cases place with
    | zero =>
      obtain rfl : a = other := by simpa using found
      rw [fails] at passes
      exact absurd passes Bool.false_ne_true
    | succ place =>
      have left : place ∉ places := by simpa using left
      obtain ⟨full, before⟩ := first.first place other (by simpa using found) passes left
      exact ⟨by simpa using full, by simpa using before⟩

/-- In front of a list, what passes the test is taken, and leaves one place less to take. -/
theorem AreFirstPlaces.take (first : AreFirstPlaces p l limit places) (passes : p a = true) :
    AreFirstPlaces p (a :: l) (limit + 1) (0 :: places.map (· + 1)) where
  order := by
    refine .cons (fun place member => ?_) (List.pairwise_map.mpr (first.order.imp Nat.succ_lt_succ))
    obtain ⟨origin, _, rfl⟩ := List.mem_map.mp member
    exact Nat.succ_pos origin
  bound := by simpa using first.bound
  pass := by simpa [passes] using first.pass
  first := by
    intro place other found otherPasses left
    cases place with
    | zero => exact absurd List.mem_cons_self left
    | succ place =>
      have left : place ∉ places := by simpa using left
      obtain ⟨full, before⟩ := first.first place other (by simpa using found) otherPasses left
      exact ⟨by simpa using full, by simpa using before⟩

/-- The first members that pass stand in places of their own. -/
theorem exists_areFirstPlaces (p : α → Bool) (l : List α) (limit : Nat) :
    ∃ places, AreFirstPlaces p l limit places ∧
      places.map (l[·]?) = ((l.filter p).take limit).map some := by
  induction l generalizing limit with
  | nil => exact ⟨[], areFirstPlaces_nil, by simp⟩
  | cons a rest ih =>
    cases passes : p a with
    | false =>
      obtain ⟨places, first, listed⟩ := ih limit
      refine ⟨_, first.skip passes, ?_⟩
      simpa [passes, Function.comp_def] using listed
    | true =>
      cases limit with
      | zero => exact ⟨[], areFirstPlaces_zero, by simp⟩
      | succ limit =>
        obtain ⟨places, first, listed⟩ := ih limit
        refine ⟨_, first.take passes, ?_⟩
        simpa [passes, Function.comp_def] using listed

end Places

namespace Filter

theorem interchange_ne_nil {filter : Filter} (some : filter.patterns ≠ []) (a b : Mod) :
    (filter.interchange a b).patterns ≠ [] := by
  unfold interchange
  split
  · exact some
  · simp [some]

theorem allowLegacy_ne_nil {filter : Filter} (some : filter.patterns ≠ []) (legacy : Mod) :
    (filter.allowLegacy legacy).patterns ≠ [] := by
  unfold allowLegacy
  split
  · simp
  · simpa using some

theorem interchangeAll_ne_nil {filter : Filter} (some : filter.patterns ≠ [])
    (pairs : List (Mod × Mod)) : (Rules.interchangeAll pairs filter).patterns ≠ [] := by
  induction pairs generalizing filter with
  | nil => exact some
  | cons pair pairs ih => exact ih (interchange_ne_nil some pair.1 pair.2)

theorem apply_ne_nil {filter : Filter} (some : filter.patterns ≠ []) (rules : Rules) :
    (rules.apply filter).patterns ≠ [] := by
  have merged := interchangeAll_ne_nil some rules.synonyms
  rw [Rules.apply_eq]
  split
  · exact allowLegacy_ne_nil merged _
  · exact merged

end Filter

/-- A filter is built from a text if an expression is read from it, and then it is that expression
as the profile adapts it. -/
theorem Profile.build_eq_ok_iff {profile : Profile} {text : List Char} {applyRules : Bool}
    {expression : Expression} : profile.build text applyRules = .ok expression ↔
      ∃ written, Expression.parse text = .ok written ∧
        profile.adapt written applyRules = expression :=
  map_eq_ok_iff

/-- Whatever is built has some pattern, since no text spells a filter without patterns. -/
theorem Profile.ne_nil_of_build {profile : Profile} {text : List Char} {applyRules : Bool}
    {expression : Expression} (built : profile.build text applyRules = .ok expression) :
    expression.filter.patterns ≠ [] := by
  obtain ⟨written, read, rfl⟩ := build_eq_ok_iff.mp built
  have some := (Expression.isCanonical_of_parse read).some
  cases applyRules with
  | false => exact some
  | true => exact Filter.apply_ne_nil some profile.rules

namespace Filter

variable {filter : Filter}

/-- A filter that has patterns gives its verdicts by a full evaluation. -/
theorem accepts_eq_evaluate (some : filter.patterns ≠ []) (candidate : List Mod) :
    filter.accepts candidate = filter.evaluate candidate :=
  (outlook_changes_no_verdict.2 filter some).1 candidate

/-- The shortcut for unrestricted filters selects what the verdicts select. -/
theorem select_eq_take_filter (filter : Filter) (scores : List Score) (limit : Nat) :
    filter.select scores limit = (scores.filter (filter.accepts ·.mods)).take limit := by
  unfold select
  split
  next unrestricted =>
    have all : scores.filter (filter.accepts ·.mods) = scores :=
      List.filter_eq_self.mpr fun score _ => accepts_of_isUnrestricted unrestricted score.mods
    rw [all]
  next => rfl

theorem select_eq_take_evaluate (some : filter.patterns ≠ []) (scores : List Score) (limit : Nat) :
    filter.select scores limit = (scores.filter (filter.evaluate ·.mods)).take limit := by
  simp only [select_eq_take_filter, accepts_eq_evaluate some]

/-- Scores behind others are selected only as far as the limit leaves room. -/
theorem select_append (filter : Filter) (scores others : List Score) (limit : Nat) :
    filter.select (scores ++ others) limit = filter.select scores limit ++
      filter.select others (limit - (filter.select scores limit).length) := by
  simp only [select_eq_take_filter, List.filter_append, List.take_append, List.length_take]
  have rest : limit - min limit (scores.filter (filter.accepts ·.mods)).length =
      limit - (scores.filter (filter.accepts ·.mods)).length := by
    omega
  rw [rest]

end Filter

/-- White space around a filter has no part in reading it. -/
theorem Filter.parse_congr {text other : List Char} (same : Text.trim text = Text.trim other) :
    Filter.parse text = Filter.parse other := by
  rw [Filter.parse, Filter.parse, same]

/-- Behind a text without one, the mark makes an expression strict and does nothing else. -/
theorem Expression.parse_concat_mark {text : List Char}
    (unmarked : (Text.trim text).getLast? ≠ some '!') :
    Expression.parse (text ++ ['!']) =
      (Expression.parse text).map fun expression => { expression with strict := true } := by
  have lenient : Expression.parse text = (Filter.parse text).map (⟨·, false⟩) := by
    rw [Expression.parse, if_neg unmarked, Filter.parse_congr (Text.trim_trim text)]
  have strict : Expression.parse (text ++ ['!']) = (Filter.parse text).map (⟨·, true⟩) := by
    have solid : Text.isBlank '!' = false := by decide
    rw [Expression.parse, Text.trim_concat solid, if_pos List.getLast?_concat, List.dropLast_concat,
      Filter.parse_congr (Text.trim_trimStart text)]
  rw [lenient, strict]
  cases Filter.parse text with
  | error => rfl
  | ok => rfl

/-- The strict mark makes an expression strict and changes nothing else of what is built. -/
theorem Profile.build_concat_mark {profile : Profile} {text : List Char} {applyRules : Bool}
    (unmarked : (Text.trim text).getLast? ≠ some '!') :
    profile.build (text ++ ['!']) applyRules =
      (profile.build text applyRules).map fun expression => { expression with strict := true } := by
  rw [build, build, Expression.parse_concat_mark unmarked]
  cases Expression.parse text with
  | error => rfl
  | ok => cases applyRules <;> rfl

/-- What a built filter selects are the first scores, at most `limit` of them and each from a place
of its own, that pass the full evaluation of the filter. A smaller limit selects less from the end,
and what one list leaves of the limit is selected from the next. The strict mark changes neither
what can be built, nor the filter, nor what it selects. -/
theorem select_takes_first_accepted (profile : Profile) (text : List Char) (applyRules : Bool) :
    (∀ expression, profile.build text applyRules = .ok expression →
      let filter := expression.filter
      (∀ scores limit,
        filter.select scores limit = (scores.filter (filter.evaluate ·.mods)).take limit ∧
        ∃ places, AreFirstPlaces (fun score : Score => filter.evaluate score.mods) scores limit
            places ∧
          places.map (scores[·]?) = (filter.select scores limit).map some) ∧
      (∀ scores less more, less ≤ more → filter.select scores less <+: filter.select scores more) ∧
      ∀ scores others limit, filter.select (scores ++ others) limit =
        filter.select scores limit ++
          filter.select others (limit - (filter.select scores limit).length)) ∧
    ((Text.trim text).getLast? ≠ some '!' →
      profile.build (text ++ ['!']) applyRules =
        (profile.build text applyRules).map (fun expression => { expression with strict := true }) ∧
      ∀ expression marked, profile.build text applyRules = .ok expression →
        profile.build (text ++ ['!']) applyRules = .ok marked →
        marked.filter = expression.filter ∧
          ∀ scores limit,
            marked.filter.select scores limit = expression.filter.select scores limit) := by
  refine ⟨fun expression built => ⟨fun scores limit => ?_, ?_, ?_⟩, fun unmarked => ⟨?_, ?_⟩⟩
  · have selected :=
      Filter.select_eq_take_evaluate (Profile.ne_nil_of_build built) scores limit
    refine ⟨selected, ?_⟩
    rw [selected]
    exact exists_areFirstPlaces _ scores limit
  · intro scores less more bound
    rw [Filter.select_eq_take_filter, Filter.select_eq_take_filter]
    exact List.take_prefix_take_left bound
  · exact expression.filter.select_append
  · exact Profile.build_concat_mark unmarked
  · intro expression marked built builtMarked
    rw [Profile.build_concat_mark unmarked, built] at builtMarked
    cases builtMarked
    exact ⟨rfl, fun _ _ => rfl⟩

/-- The pattern of `-^(hd)` refuses every candidate and the filter refuses what it accepts, so the
first scores are taken as they are. -/
theorem select_takes_first_accepted_without_a_look :
    let text := " -^(hd) ".toList
    let hidden : Mod := ⟨['H', 'D']⟩
    let filter : Filter := ⟨[⟨[Group.ofMods .optional [hidden]], true⟩], true⟩
    let scores : List Score :=
      [⟨1, none, none, [hidden, ⟨['D', 'T']⟩]⟩, ⟨2, some "b", none, []⟩, ⟨2, none, some 7, [hidden]⟩]
    Profile.base.build text true = .ok ⟨filter, false⟩ ∧ filter.isUnrestricted = true ∧
      filter.select scores 2 = scores.take 2 ∧
      filter.select scores 2 = (scores.filter (filter.evaluate ·.mods)).take 2 ∧
      (∃ places, AreFirstPlaces (fun score : Score => filter.evaluate score.mods) scores 2 places ∧
        places.map (scores[·]?) = (filter.select scores 2).map some) ∧
      1 ≤ 2 ∧ filter.select scores 1 <+: filter.select scores 2 ∧
      filter.select (scores ++ scores) 4 = filter.select scores 4 ++
        filter.select scores (4 - (filter.select scores 4).length) ∧
      (Text.trim text).getLast? ≠ some '!' ∧
      Profile.base.build (text ++ ['!']) true = .ok ⟨filter, true⟩ := by
  intro text hidden filter scores
  have read : Expression.parse " -^(hd) ".toList = .ok ⟨filter, false⟩ := by decide +kernel
  have adapted : Profile.base.rules.apply filter = filter := by decide
  have built : Profile.base.build text true = .ok ⟨filter, false⟩ :=
    Profile.build_eq_ok_iff.mpr ⟨_, read, congrArg (Expression.mk · false) adapted⟩
  have unmarked : (Text.trim text).getLast? ≠ some '!' := by decide
  obtain ⟨ofBuilt, ofMark⟩ := select_takes_first_accepted Profile.base text true
  obtain ⟨selected, smaller, next⟩ := ofBuilt _ built
  refine ⟨built, by decide, by decide, (selected scores 2).1, (selected scores 2).2, by decide,
    smaller scores 1 2 (by decide), next scores scores 4, unmarked, ?_⟩
  rw [(ofMark unmarked).1, built]
  rfl

end ScoreSieve
