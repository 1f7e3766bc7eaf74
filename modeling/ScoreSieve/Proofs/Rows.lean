import ScoreSieve.CommandLine.Arguments
import ScoreSieve.Proofs.Codes
import ScoreSieve.Proofs.JsonText
import ScoreSieve.Report

namespace ScoreSieve

namespace Text

/-- The rows of a table in an output: the lines that start with a bar. -/
def barred (output : String) : List (List Char) :=
  (output.toList.splitOn '\n').filter (·.head? = some '│')

/-- Holds if a line shows these cells between bars, each of them filled up with spaces. -/
def IsRow (cells : List String) (line : List Char) : Prop :=
  ∃ parts, List.Forall₂ (fun (cell : String) part => ∃ count,
      part = cell.toList ++ List.replicate count ' ') cells parts ∧
    line = "│ ".toList ++ " ┆ ".toList.intercalate parts ++ " │".toList

theorem splitOn_of_notMem {text : List Char} {c : Char} (none : c ∉ text) :
    text.splitOn c = [text] :=
  List.splitOnP_eq_singleton fun d member => by
    rw [beq_eq_false_iff_ne]
    rintro rfl
    exact none member

/-- Lines that are put below each other are parted again at the line ends. -/
theorem splitOn_ofLines {lines : List String} (plain : ∀ line ∈ lines, '\n' ∉ line.toList) :
    (ofLines lines).toList.splitOn '\n' = lines.map String.toList ++ [[]] := by
  induction lines with
  | nil => rfl
  | cons line lines ih =>
    obtain ⟨first, later⟩ := List.forall_mem_cons.mp plain
    have split : (ofLines (line :: lines)).toList =
        line.toList ++ '\n' :: (ofLines lines).toList := by
      simp [ofLines]
    have whole := splitOn_of_notMem first
    rw [List.splitOn] at whole
    rw [split, List.splitOn, List.splitOnP_append_cons _ _ (by rfl), whole]
    exact congrArg (line.toList :: ·) (ih later)

/-- The characters of a ruled line are those of its rule. -/
theorem Rule.mem_of_mem_draw {rule : Rule} {widths : List Nat} {c : Char}
    (member : c ∈ (rule.draw widths).toList) :
    c ∈ rule.fill :: (rule.left ++ rule.cross ++ rule.right).toList := by
  simp only [draw, String.toList_append, String.toList_intercalate, List.mem_append] at member
  simp only [String.toList_append, List.mem_cons, List.mem_append]
  rcases member with (left | inner) | right
  · exact .inr (.inl (.inl left))
  · rcases mem_of_mem_intercalate inner with cross | ⟨_, filled, inFilled⟩
    · exact .inr (.inl (.inr cross))
    · simp only [List.mem_map] at filled
      obtain ⟨_, ⟨width, _, rfl⟩, rfl⟩ := filled
      rw [String.toList_ofList] at inFilled
      exact .inl (List.eq_of_mem_replicate inFilled)
  · exact .inr (.inr right)

namespace Grid

/-- The one line of a row whose cells have one line each. -/
def rowLine (widths : List Nat) (cells : List String) : String :=
  "│ " ++
    " ┆ ".intercalate (List.zipWith (fun width cell => padded width cell.toList) widths cells) ++
    " │"

variable {widths : List Nat} {cells : List String}

theorem foldl_max_one {α : Type} {l : List α} (some : l ≠ []) :
    l.foldl (fun (highest : Nat) _ => max highest 1) 0 = 1 := by
  have again (l : List α) : l.foldl (fun (highest : Nat) _ => max highest 1) 1 = 1 := by
    induction l with
    | nil => rfl
    | cons a l ih => exact ih
  cases l with
  | nil => exact absurd rfl some
  | cons a l => exact again l

/-- A row of cells without line ends is one line. -/
theorem rowLines_of_plain (same : widths.length = cells.length) (some : cells ≠ [])
    (plain : ∀ cell ∈ cells, '\n' ∉ cell.toList) :
    rowLines widths cells = [rowLine widths cells] := by
  have columns : widths.zip (cells.map cellLines) =
      (widths.zip cells).map fun column => (column.1, [column.2.toList]) := by
    have lines : cells.map cellLines = cells.map fun cell => [cell.toList] :=
      List.map_congr_left fun cell member => splitOn_of_notMem (plain cell member)
    rw [lines, List.zip_map_right]
    rfl
  have nonempty : widths.zip cells ≠ [] := by
    rw [← List.length_pos_iff, List.length_zip, same, min_self]
    exact List.length_pos_iff.mpr some
  simp only [rowLines, columns, List.foldl_map, List.length_singleton, foldl_max_one nonempty,
    List.map_map, rowLine, ← List.map_uncurry_zip_eq_zipWith]
  rfl

/-- A line that is drawn of cells shows these cells in their order. -/
theorem isRow_rowLine (same : widths.length = cells.length) :
    IsRow cells (rowLine widths cells).toList := by
  have padding (widths : List Nat) (cells : List String) (same : widths.length = cells.length) :
      List.Forall₂ (fun (cell : String) part => ∃ count,
          part = cell.toList ++ List.replicate count ' ') cells
        ((List.zipWith (fun width cell => padded width cell.toList) widths cells).map
          String.toList) := by
    induction widths generalizing cells with
    | nil =>
      obtain rfl := List.eq_nil_of_length_eq_zero same.symm
      exact .nil
    | cons width widths ih =>
      cases cells with
      | nil => cases same
      | cons cell cells =>
        exact .cons ⟨_, String.toList_ofList⟩ (ih cells (Nat.succ.inj same))
  refine ⟨_, padding widths cells same, ?_⟩
  simp only [rowLine, String.toList_append, String.toList_intercalate]

def rules : List Rule :=
  [top, underHeader, betweenRows, bottom]

/-- The rules of a grid have neither line ends nor the bars that part cells. -/
theorem plain_of_mem_draw {rule : Rule} (member : rule ∈ rules) {c : Char}
    (drawn : c ∈ (rule.draw widths).toList) : c ≠ '\n' ∧ c ≠ '│' := by
  have marks : (rules.all fun rule =>
      (rule.fill :: (rule.left ++ rule.cross ++ rule.right).toList).all fun c =>
        c ≠ '\n' && c ≠ '│') = true := by
    decide
  have ofRule := List.all_eq_true.mp (List.all_eq_true.mp marks rule member) c
    (Rule.mem_of_mem_draw drawn)
  simpa using ofRule

theorem head?_draw_ne {rule : Rule} (member : rule ∈ rules) :
    (rule.draw widths).toList.head? ≠ some '│' :=
  fun start => (plain_of_mem_draw member (List.mem_of_mem_head? start)).2 rfl

variable {header : List String} {rows : List (List String)}

/-- The lines of a table whose rows have no line ends inside. -/
theorem lines_of_plain (nonempty : header ≠ []) (same : ∀ row ∈ rows, row.length = header.length)
    (plain : ∀ row ∈ header :: rows, ∀ cell ∈ row, '\n' ∉ cell.toList) :
    lines header rows =
      [top.draw (columnWidths header rows), rowLine (columnWidths header rows) header,
          underHeader.draw (columnWidths header rows)] ++
        [betweenRows.draw (columnWidths header rows)].intercalate
          (rows.map fun row => [rowLine (columnWidths header rows) row]) ++
        [bottom.draw (columnWidths header rows)] := by
  have columns : (columnWidths header rows).length = header.length := by simp [columnWidths]
  obtain ⟨plainHeader, plainRows⟩ := List.forall_mem_cons.mp plain
  have body : rows.map (rowLines (columnWidths header rows)) =
      rows.map fun row => [rowLine (columnWidths header rows) row] :=
    List.map_congr_left fun row member => by
      have count := same row member
      refine rowLines_of_plain (columns.trans count.symm) ?_ (plainRows row member)
      rw [← List.length_pos_iff, count]
      exact List.length_pos_iff.mpr nonempty
  simp only [lines, body, rowLines_of_plain columns nonempty plainHeader]
  rfl

end Grid

theorem IsRow.head?_eq {cells : List String} {line : List Char} (row : IsRow cells line) :
    line.head? = some '│' := by
  obtain ⟨parts, _, rfl⟩ := row
  rfl

theorem IsRow.newline_notMem {cells : List String} {line : List Char} (row : IsRow cells line)
    (plain : ∀ cell ∈ cells, '\n' ∉ cell.toList) : '\n' ∉ line := by
  obtain ⟨parts, padded, rfl⟩ := row
  intro member
  rcases List.mem_append.mp member with front | last
  · rcases List.mem_append.mp front with first | inner
    · revert first
      decide
    · rcases mem_of_mem_intercalate inner with between | ⟨part, inParts, inPart⟩
      · revert between
        decide
      · obtain ⟨cell, inCells, count, rfl⟩ := exists_of_forall₂ padded inParts
        rcases List.mem_append.mp inPart with inCell | blank
        · exact plain cell inCells inCell
        · cases List.eq_of_mem_replicate blank
  · revert last
    decide

theorem filter_intercalate {α β : Type} {keep : α → Bool} {separator : α} {f : β → α} {l : List β}
    (dropped : keep separator = false) (kept : ∀ b ∈ l, keep (f b) = true) :
    ([separator].intercalate (l.map fun b => [f b])).filter keep = l.map f := by
  induction l with
  | nil => rfl
  | cons b l ih =>
    obtain ⟨first, later⟩ := List.forall_mem_cons.mp kept
    cases l with
    | nil => simp [first]
    | cons next l =>
      have rest := ih later
      rw [List.map_cons] at rest
      rw [List.map_cons, List.map_cons, List.intercalate_cons_cons, List.append_assoc,
        List.filter_append, List.filter_append, rest]
      simp [first, dropped]

namespace Grid

variable {header : List String} {rows : List (List String)} (nonempty : header ≠ [])
  (same : ∀ row ∈ rows, row.length = header.length)

include same in
/-- The header and the rows of a table are drawn as rows, in columns that are as many as they have
cells. -/
theorem isRow_of_mem {row : List String} (member : row ∈ header :: rows) :
    IsRow row (rowLine (columnWidths header rows) row).toList := by
  have columns : (columnWidths header rows).length = header.length := by simp [columnWidths]
  rcases List.mem_cons.mp member with rfl | inRows
  · exact isRow_rowLine columns
  · exact isRow_rowLine (columns.trans (same row inRows).symm)

variable (plain : ∀ row ∈ header :: rows, ∀ cell ∈ row, '\n' ∉ cell.toList)

include nonempty same plain

/-- Every line of a grid is a rule, or else a row. -/
theorem mem_lines {line : String} (member : line ∈ lines header rows) :
    (∃ rule ∈ rules, line = rule.draw (columnWidths header rows)) ∨
      ∃ row ∈ header :: rows, line = rowLine (columnWidths header rows) row := by
  rw [lines_of_plain nonempty same plain] at member
  simp only [List.mem_append, List.mem_cons, List.not_mem_nil, or_false] at member
  rcases member with ((rfl | rfl | rfl) | inner) | rfl
  · exact .inl ⟨top, by simp [rules], rfl⟩
  · exact .inr ⟨header, by simp, rfl⟩
  · exact .inl ⟨underHeader, by simp [rules], rfl⟩
  · rcases mem_of_mem_intercalate inner with between | ⟨_, inRows, inRow⟩
    · exact .inl ⟨betweenRows, by simp [rules], List.mem_singleton.mp between⟩
    · obtain ⟨row, member, rfl⟩ := List.mem_map.mp inRows
      exact .inr ⟨row, List.mem_cons_of_mem _ member, List.mem_singleton.mp inRow⟩
  · exact .inl ⟨bottom, by simp [rules], rfl⟩

theorem newline_notMem_of_mem_lines {line : String} (member : line ∈ lines header rows) :
    '\n' ∉ line.toList := by
  rcases mem_lines nonempty same plain member with ⟨rule, ruled, rfl⟩ | ⟨row, listed, rfl⟩
  · exact fun inRule => (plain_of_mem_draw ruled inRule).1 rfl
  · exact (isRow_of_mem same listed).newline_notMem (plain row listed)

/-- The lines of a grid that start with a bar are its header and its rows, in their order. -/
theorem filter_lines :
    (lines header rows).filter (·.toList.head? = some '│') =
      (header :: rows).map (rowLine (columnWidths header rows)) := by
  have dropped : ∀ rule ∈ rules,
      ¬ (rule.draw (columnWidths header rows)).toList.head? = some '│' :=
    fun rule ruled => head?_draw_ne ruled
  simp only [rules, List.forall_mem_cons] at dropped
  obtain ⟨offTop, offUnder, offBetween, offBottom, _⟩ := dropped
  have kept : ∀ row ∈ header :: rows,
      (rowLine (columnWidths header rows) row).toList.head? = some '│' :=
    fun row listed => (isRow_of_mem same listed).head?_eq
  obtain ⟨keptHeader, keptRows⟩ := List.forall_mem_cons.mp kept
  rw [lines_of_plain nonempty same plain, List.filter_append, List.filter_append,
    filter_intercalate (by simpa using offBetween) (by simpa using keptRows)]
  simp [offTop, offUnder, offBottom, keptHeader]

/-- A table shows its header and its rows, in order, whatever it draws around them. -/
theorem forall₂_isRow_barred :
    List.Forall₂ IsRow (header :: rows) (barred (ofLines (lines header rows))) := by
  rw [barred, splitOn_ofLines fun _ => newline_notMem_of_mem_lines nonempty same plain,
    List.filter_append, List.filter_map]
  change List.Forall₂ IsRow (header :: rows)
    (((lines header rows).filter (·.toList.head? = some '│')).map String.toList ++ [])
  rw [List.append_nil, filter_lines nonempty same plain, List.map_map,
    List.forall₂_map_right_iff, List.forall₂_same]
  exact fun _ => isRow_of_mem same

end Grid

end Text

/-- The word for a verdict, which stands in bold green or in red on a coloured output. -/
def verdictWord : (coloured accepted : Bool) → String
  | false, true => "match"
  | false, false => "no match"
  | true, true => "\x1b[1;32mmatch\x1b[0m"
  | true, false => "\x1b[31mno match\x1b[0m"

/-- The cells of a row about a candidate. -/
def Verdict.cells (coloured : Bool) (verdict : Verdict) : List String :=
  [if verdict.candidate = [] then "NM" else String.join (verdict.candidate.map Mod.name),
    verdictWord coloured verdict.accepted]

namespace CommandLine

/-- Holds if an output shows verdicts, one for each of them and in their order: as the rows of a
table below its header, or as the results in an object. -/
inductive ShowsVerdicts (coloured : Bool) (verdicts : List Verdict) : Format → String → Prop
  | text {output} :
      List.Forall₂ Text.IsRow (["Mods", "Result"] :: verdicts.map (Verdict.cells coloured))
        (Text.barred output) →
      ShowsVerdicts coloured verdicts .text output
  | json {output filter} :
      Json.ofText? output.toList = some (.object [("filter", .string filter),
        ("results", .array (verdicts.map fun verdict =>
          .object [("candidate", .array (verdict.candidate.map (.string ·.name))),
            ("matched", .boolean verdict.accepted)]))]) →
      ShowsVerdicts coloured verdicts .json output

end CommandLine

theorem Report.verdictRow_eq (coloured : Bool) (verdict : Verdict) :
    verdictRow coloured verdict = verdict.cells coloured := by
  have mods : Mod.label verdict.candidate =
      if verdict.candidate = [] then "NM" else String.join (verdict.candidate.map Mod.name) := by
    cases verdict.candidate with
    | nil => rfl
    | cons mod mods =>
      rw [← String.toList_inj]
      simp [Mod.label, Mod.concat, Mod.name, List.flatMap_map]
  have word : verdictLabel coloured verdict.accepted = verdictWord coloured verdict.accepted := by
    cases coloured <;> cases verdict.accepted <;> rfl
  rw [verdictRow, mods, word, Verdict.cells]

/-- No cell of a verdict has a line end in it, since a label is a run of codes. -/
theorem newline_notMem_cells (coloured : Bool) {verdict : Verdict}
    (codes : ∀ mod ∈ verdict.candidate, mod.IsCode) :
    ∀ cell ∈ verdict.cells coloured, '\n' ∉ cell.toList := by
  rw [Verdict.cells, List.forall_mem_cons, List.forall_mem_singleton]
  constructor
  · split
    · decide
    · rw [String.toList_join]
      intro member
      obtain ⟨_, named, inName⟩ := List.mem_flatMap.mp member
      obtain ⟨mod, listed, rfl⟩ := List.mem_map.mp named
      rw [Mod.name, String.toList_ofList] at inName
      exact absurd ((codes mod listed).2 _ inName) (by decide)
  · cases coloured <;> cases verdict.accepted <;> decide

variable {verdicts : List Verdict}

/-- The table about candidates shows the verdict on each of them. -/
theorem showsVerdicts_matchText (coloured : Bool)
    (codes : ∀ verdict ∈ verdicts, ∀ mod ∈ verdict.candidate, mod.IsCode) :
    CommandLine.ShowsVerdicts coloured verdicts .text (Report.matchText coloured verdicts) := by
  have rows : verdicts.map (Report.verdictRow coloured) = verdicts.map (Verdict.cells coloured) :=
    List.map_congr_left fun verdict _ => Report.verdictRow_eq coloured verdict
  refine .text ?_
  rw [Report.matchText, rows]
  refine Text.Grid.forall₂_isRow_barred (List.cons_ne_nil _ _) ?_ (List.forall_mem_cons.mpr ⟨?_, ?_⟩)
  · intro row member
    obtain ⟨verdict, _, rfl⟩ := List.mem_map.mp member
    rfl
  · decide
  · intro row member
    obtain ⟨verdict, listed, rfl⟩ := List.mem_map.mp member
    exact newline_notMem_cells coloured (codes verdict listed)

theorem exact_modsJson (mods : List Mod) : (Report.modsJson mods).Exact := by
  refine .array fun item member => ?_
  obtain ⟨mod, _, rfl⟩ := List.mem_map.mp member
  exact .string _

/-- What is reported of verdicts as JSON has no inexact numbers, so its text can be read as the same
value. -/
theorem exact_matchJson (expression : Expression) (verdicts : List Verdict) :
    (Report.matchJson expression verdicts).Exact := by
  have results : ∀ item ∈ verdicts.map Report.verdictJson, item.Exact := by
    intro item member
    obtain ⟨verdict, _, rfl⟩ := List.mem_map.mp member
    exact .object
      (List.forall_mem_cons.mpr ⟨exact_modsJson _, List.forall_mem_singleton.mpr (.boolean _)⟩)
  exact .object
    (List.forall_mem_cons.mpr ⟨.string _, List.forall_mem_singleton.mpr (.array results)⟩)

/-- The object about candidates holds the verdict on each of them. -/
theorem showsVerdicts_matchJson (coloured : Bool) (expression : Expression)
    (verdicts : List Verdict) :
    CommandLine.ShowsVerdicts coloured verdicts .json
      ((Report.matchJson expression verdicts).text ++ "\n") :=
  .json (Json.ofText?_text_line (exact_matchJson expression verdicts))

end ScoreSieve
