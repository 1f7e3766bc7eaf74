import ScoreSieve.Proofs.JsonTokens

namespace ScoreSieve.Json

theorem ofText?_indent (depth : Nat) (rest : List Char) :
    Token.ofText? ((indent depth).toList ++ rest) = Token.ofText? rest := by
  have blanks (count : Nat) :
      Token.ofText? (List.replicate count ' ' ++ rest) = Token.ofText? rest := by
    induction count with
    | zero => rfl
    | succ count ih => rw [List.replicate_succ, List.cons_append, ofText?_blank (.inl rfl), ih]
  rw [indent, String.toList_ofList, blanks]

theorem ofText?_mark {c : Char} (mark : Token.isMark c = true) (rest : List Char) :
    Token.ofText? (c :: rest) = (Token.ofText? rest).map (.mark c :: ·) := by
  have reads : Reads (Token.read? c rest) (.mark c) rest := by
    rw [Token.read?, if_pos mark]
    exact ⟨_, rfl, rfl, rfl⟩
  simp only [Token.isMark, List.mem_cons, List.not_mem_nil, or_false, decide_eq_true_eq] at mark
  rcases mark with rfl | rfl | rfl | rfl | rfl | rfl
  all_goals exact ofText?_of_reads (by decide) (by decide) reads

/-- The lines of a bracket: indented texts with commas behind all but the last. -/
def lines (depth : Nat) (texts : List String) : List Char :=
  [',', '\n'].intercalate (texts.map fun text => (indent depth).toList ++ text.toList)

/-- Lines that each spell some tokens spell, one below the other, all of these tokens with commas
between them. -/
theorem ofText?_lines {depth : Nat} {texts : List String} {tokens : List (List Token)}
    (spelled : List.Forall₂ (fun text tokens => Spells text.toList tokens) texts tokens)
    {rest : List Char} (closes : Closes rest) :
    Token.ofText? (lines depth texts ++ rest) =
      (Token.ofText? rest).map ([.mark ','].intercalate tokens ++ ·) := by
  induction spelled with
  | nil => simp [lines]
  | @cons text own texts others first later ih =>
    cases later with
    | nil =>
      rw [lines, List.map_singleton, List.intercalate_singleton, List.intercalate_singleton,
        List.append_assoc, ofText?_indent, first rest closes]
    | @cons next nextOwn texts others second later =>
      have comma : Closes (',' :: '\n' :: lines depth (next :: texts) ++ rest) := by simp [Closes]
      have split : lines depth (text :: next :: texts) ++ rest =
          (indent depth).toList ++
            (text.toList ++ (',' :: '\n' :: lines depth (next :: texts) ++ rest)) := by
        simp [lines, List.intercalate_cons_cons]
      rw [split, ofText?_indent, first _ comma, List.cons_append, ofText?_mark (by decide),
        List.cons_append, ofText?_blank (.inr rfl), ih, List.intercalate_cons_cons]
      simp [Function.comp_def]

theorem toList_enclose (depth : Nat) (opening closing : String) {texts : List String}
    (some : texts ≠ []) :
    (enclose depth opening closing texts).toList =
      opening.toList ++ '\n' :: (lines (depth + 1) texts ++
        '\n' :: ((indent depth).toList ++ closing.toList)) := by
  simp [enclose, some, lines, String.toList_intercalate, Function.comp_def]

/-- Texts in brackets spell what they spell themselves, between the brackets and with commas. -/
theorem spells_enclose (depth : Nat) {opening closing : String} {a b : Char} {texts : List String}
    {tokens : List (List Token)} (starts : opening.toList = [a]) (stops : closing.toList = [b])
    (marks : Token.isMark a = true ∧ Token.isMark b = true)
    (spelled : List.Forall₂ (fun text tokens => Spells text.toList tokens) texts tokens) :
    Spells (enclose depth opening closing texts).toList
      (.mark a :: [.mark ','].intercalate tokens ++ [.mark b]) := by
  intro rest closes
  cases texts with
  | nil =>
    cases spelled
    simp [enclose, starts, stops, ofText?_mark marks.1, ofText?_mark marks.2, Function.comp_def]
  | cons text texts =>
    have lineEnd : Closes ('\n' :: ((indent depth).toList ++ b :: rest)) := by simp [Closes]
    have split : (enclose depth opening closing (text :: texts)).toList ++ rest =
        a :: '\n' :: (lines (depth + 1) (text :: texts) ++
          '\n' :: ((indent depth).toList ++ b :: rest)) := by
      rw [toList_enclose depth _ _ (List.cons_ne_nil text texts), starts, stops]
      simp
    rw [split, ofText?_mark marks.1, ofText?_blank (.inr rfl), ofText?_lines spelled lineEnd,
      ofText?_blank (.inr rfl), ofText?_indent, ofText?_mark marks.2]
    simp [Function.comp_def]

theorem spells_member {name : String} {depth : Nat} {value : Json} {tokens : List Token}
    (spelled : Spells (value.pretty depth).toList tokens) :
    Spells (quote name ++ ": " ++ value.pretty depth).toList
      (.string name :: .mark ':' :: tokens) := by
  intro rest closes
  have split : (quote name ++ ": " ++ value.pretty depth).toList ++ rest =
      (quote name).toList ++ ':' :: ' ' :: ((value.pretty depth).toList ++ rest) := by
    simp
  rw [split, ofText?_quote, ofText?_mark (by decide), ofText?_blank (.inl rfl), spelled rest closes]
  simp [Function.comp_def]

/-- No value starts with a closing bracket, so the end of an array is not taken for an item. -/
theorem ne_closing_of_reads {tokens after : List Token} {value : Json}
    (reads : Reads (value? tokens) value after) (rest : List Token) :
    tokens ≠ .mark ']' :: rest := by
  rintro rfl
  obtain ⟨_, read, _⟩ := reads
  rw [value?] at read
  · cases read
  all_goals simp

theorem reads_items_last {tokens after : List Token} {value : Json}
    (reads : Reads (value? tokens) value (.mark ']' :: after)) :
    Reads (items? tokens) [value] after := by
  have starts := ne_closing_of_reads reads
  obtain ⟨first, read, rfl, next⟩ := reads
  rw [items?]
  · simp only [read, Option.bind_eq_bind, Option.bind_some]
    split
    next own same =>
      cases same.symm.trans next
      exact ⟨_, rfl, rfl, rfl⟩
    next own same => cases same.symm.trans next
    next other _ => exact absurd next (other after)
  · exact starts

theorem reads_items_next {tokens later after : List Token} {value : Json} {items : List Json}
    (reads : Reads (value? tokens) value (.mark ',' :: later))
    (others : Reads (items? later) items after) :
    Reads (items? tokens) (value :: items) after := by
  have starts := ne_closing_of_reads reads
  obtain ⟨first, read, rfl, next⟩ := reads
  obtain ⟨rest, readRest, rfl, left⟩ := others
  rw [items?]
  · simp only [read, Option.bind_eq_bind, Option.bind_some]
    split
    next own same => cases same.symm.trans next
    next own same =>
      cases same.symm.trans next
      simp only [readRest, Option.bind_some]
      exact ⟨_, rfl, rfl, left⟩
    next _ other => exact absurd next (other later)
  · exact starts

theorem reads_members_last {name : String} {tokens after : List Token} {value : Json}
    (reads : Reads (value? tokens) value (.mark '\x7d' :: after)) :
    Reads (members? (.string name :: .mark ':' :: tokens)) [(name, value)] after := by
  obtain ⟨first, read, rfl, next⟩ := reads
  rw [members?]
  · simp only [memberName?, read, Option.bind_eq_bind, Option.bind_some]
    split
    next own same =>
      cases same.symm.trans next
      exact ⟨_, rfl, rfl, rfl⟩
    next own same => cases same.symm.trans next
    next other _ => exact absurd next (other after)
  · simp

theorem reads_members_next {name : String} {tokens later after : List Token} {value : Json}
    {members : List (String × Json)} (reads : Reads (value? tokens) value (.mark ',' :: later))
    (others : Reads (members? later) members after) :
    Reads (members? (.string name :: .mark ':' :: tokens)) ((name, value) :: members) after := by
  obtain ⟨first, read, rfl, next⟩ := reads
  obtain ⟨rest, readRest, rfl, left⟩ := others
  rw [members?]
  · simp only [memberName?, read, Option.bind_eq_bind, Option.bind_some]
    split
    next own same => cases same.symm.trans next
    next own same =>
      cases same.symm.trans next
      simp only [readRest, Option.bind_some]
      exact ⟨_, rfl, rfl, left⟩
    next _ other => exact absurd next (other later)
  · simp

/-- Holds if tokens are read as a value wherever they stand. -/
def StandFor (tokens : List Token) (json : Json) : Prop :=
  ∀ rest, Reads (value? (tokens ++ rest)) json rest

theorem standFor_scalar {token : Token} {value : Json} (scalar : scalar? token = some value) :
    StandFor [token] value := by
  intro rest
  cases token with
  | mark c => cases scalar
  | _ =>
    rw [List.singleton_append, value?, scalar]
    · exact ⟨_, rfl, rfl, rfl⟩
    all_goals simp

/-- Tokens that stand for the items, with commas between them, are read as the items up to the
closing bracket. -/
theorem reads_items {tokens : List (List Token)} {items : List Json}
    (stand : List.Forall₂ StandFor tokens items) (after : List Token) :
    Reads (items? ([.mark ','].intercalate tokens ++ .mark ']' :: after)) items after := by
  induction stand with
  | nil =>
    rw [List.intercalate_nil, List.nil_append, items?]
    exact ⟨_, rfl, rfl, rfl⟩
  | cons first later ih =>
    cases later with
    | nil => exact reads_items_last (List.intercalate_singleton ▸ first _)
    | cons second later =>
      rw [List.intercalate_cons_cons, List.append_assoc, List.append_assoc]
      exact reads_items_next (first _) ih

/-- Items between brackets stand for the array of what they stand for. -/
theorem standFor_array {tokens : List (List Token)} {items : List Json}
    (stand : List.Forall₂ StandFor tokens items) :
    StandFor (.mark '[' :: [.mark ','].intercalate tokens ++ [.mark ']']) (.array items) := by
  intro rest
  obtain ⟨found, read, same, left⟩ := reads_items stand rest
  rw [List.cons_append, List.cons_append, List.append_assoc, List.singleton_append, value?, read]
  exact ⟨_, rfl, congrArg Json.array same, left⟩

/-- Holds if tokens are a name, a colon and what stands for a value. -/
def StandForMember (tokens : List Token) (member : String × Json) : Prop :=
  ∃ own, tokens = .string member.1 :: .mark ':' :: own ∧ StandFor own member.2

theorem reads_members {tokens : List (List Token)} {members : List (String × Json)}
    (stand : List.Forall₂ StandForMember tokens members) (after : List Token) :
    Reads (members? ([.mark ','].intercalate tokens ++ .mark '\x7d' :: after)) members after := by
  induction stand with
  | nil =>
    rw [List.intercalate_nil, List.nil_append, members?]
    exact ⟨_, rfl, rfl, rfl⟩
  | cons first later ih =>
    obtain ⟨own, rfl, stands⟩ := first
    cases later with
    | nil =>
      rw [List.intercalate_singleton]
      exact reads_members_last (stands _)
    | cons second later =>
      rw [List.intercalate_cons_cons, List.append_assoc, List.append_assoc]
      exact reads_members_next (stands _) ih

/-- Members between braces stand for the object that has them, in their order and with every
repeated name. -/
theorem standFor_object {tokens : List (List Token)} {members : List (String × Json)}
    (stand : List.Forall₂ StandForMember tokens members) :
    StandFor (.mark '\x7b' :: [.mark ','].intercalate tokens ++ [.mark '\x7d'])
      (.object members) := by
  intro rest
  obtain ⟨found, read, same, left⟩ := reads_members stand rest
  rw [List.cons_append, List.cons_append, List.append_assoc, List.singleton_append, value?, read]
  exact ⟨_, rfl, congrArg Json.object same, left⟩

/-- Holds of a value without numbers that are known by their text only. -/
inductive Exact : Json → Prop
  | null : Exact .null
  | boolean (value : Bool) : Exact (.boolean value)
  | integer (value : Int) : Exact (.integer value)
  | string (text : String) : Exact (.string text)
  | array {items : List Json} : (∀ item ∈ items, Exact item) → Exact (.array items)
  | object {members : List (String × Json)} : (∀ member ∈ members, Exact member.2) →
      Exact (.object members)

/-- Holds if the text of a value at every depth spells tokens that stand for the value. -/
def IsReread (json : Json) : Prop :=
  ∀ depth, ∃ tokens, Spells (json.pretty depth).toList tokens ∧ StandFor tokens json

theorem exists_items_tokens {items : List Json} (reread : ∀ item ∈ items, IsReread item)
    (depth : Nat) :
    ∃ tokens, List.Forall₂ (fun text own => Spells text.toList own) (itemTexts depth items) tokens ∧
      List.Forall₂ StandFor tokens items := by
  induction items with
  | nil => exact ⟨[], .nil, .nil⟩
  | cons item items ih =>
    obtain ⟨first, others⟩ := List.forall_mem_cons.mp reread
    obtain ⟨own, spelled, stand⟩ := first depth
    obtain ⟨tokens, spelledOthers, standOthers⟩ := ih others
    exact ⟨own :: tokens, .cons spelled spelledOthers, .cons stand standOthers⟩

theorem exists_members_tokens {members : List (String × Json)}
    (reread : ∀ member ∈ members, IsReread member.2) (depth : Nat) :
    ∃ tokens,
      List.Forall₂ (fun text own => Spells text.toList own) (memberTexts depth members) tokens ∧
      List.Forall₂ StandForMember tokens members := by
  induction members with
  | nil => exact ⟨[], .nil, .nil⟩
  | cons member members ih =>
    obtain ⟨first, others⟩ := List.forall_mem_cons.mp reread
    obtain ⟨own, spelled, stand⟩ := first depth
    obtain ⟨tokens, spelledOthers, standOthers⟩ := ih others
    exact ⟨(.string member.1 :: .mark ':' :: own) :: tokens,
      .cons (spells_member spelled) spelledOthers, .cons ⟨own, rfl, stand⟩ standOthers⟩

/-- Every value without inexact numbers is read again from what is written of it. The induction is
on the value, since a text nests as the value does. -/
theorem Exact.isReread {json : Json} (exact : json.Exact) : json.IsReread := by
  induction exact with
  | null => exact fun _ => ⟨_, spells_null, standFor_scalar rfl⟩
  | boolean value =>
    intro depth
    refine ⟨_, spells_boolean value, standFor_scalar ?_⟩
    cases value <;> rfl
  | integer value => exact fun _ => ⟨_, spells_integer value, standFor_scalar rfl⟩
  | string text =>
    exact fun _ => ⟨[.string text], fun rest _ => ofText?_quote text rest, standFor_scalar rfl⟩
  | @array items _ ih =>
    intro depth
    obtain ⟨tokens, spelled, stand⟩ := exists_items_tokens ih (depth + 1)
    exact ⟨_, spells_enclose depth rfl rfl ⟨rfl, rfl⟩ spelled, standFor_array stand⟩
  | @object members _ ih =>
    intro depth
    obtain ⟨tokens, spelled, stand⟩ := exists_members_tokens ih (depth + 1)
    exact ⟨_, spells_enclose depth rfl rfl ⟨rfl, rfl⟩ spelled, standFor_object stand⟩

/-- The text of a value is read as the value, from whatever depth it is taken and with whatever
blanks behind it. -/
theorem ofText?_pretty_append {json : Json} (exact : json.Exact) (depth : Nat) {rest : List Char}
    (closes : Closes rest) (blank : Token.ofText? rest = some []) :
    ofText? ((json.pretty depth).toList ++ rest) = some json := by
  obtain ⟨tokens, spelled, stand⟩ := exact.isReread depth
  have lexed : Token.ofText? ((json.pretty depth).toList ++ rest) = some tokens := by
    rw [spelled rest closes, blank, Option.map_some, List.append_nil]
  have whole := stand []
  rw [List.append_nil] at whole
  obtain ⟨found, read, same, left⟩ := whole
  simp only [ofText?, lexed, read, left, same, Option.bind_eq_bind, Option.bind_some,
    List.isEmpty_nil, if_true, Option.pure_def]

/-- At every depth of indentation, the text of a value is read as that value. -/
theorem ofText?_pretty {json : Json} (exact : json.Exact) (depth : Nat) :
    ofText? (json.pretty depth).toList = some json := by
  have nothing : Closes [] := by simp [Closes]
  have whole := ofText?_pretty_append exact depth nothing (by rw [Token.ofText?])
  rwa [List.append_nil] at whole

/-- A value on lines of its own is read as the value. -/
theorem ofText?_text_line {json : Json} (exact : json.Exact) :
    ofText? (json.text ++ "\n").toList = some json := by
  have lineEnd : Closes ['\n'] := by simp [Closes]
  have blank : Token.ofText? ['\n'] = some [] := by rw [ofText?_blank (.inr rfl), Token.ofText?]
  rw [String.toList_append]
  exact ofText?_pretty_append exact 0 lineEnd blank

end ScoreSieve.Json
