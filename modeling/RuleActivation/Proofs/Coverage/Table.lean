import Mathlib.Algebra.Order.BigOperators.Group.List
import RuleActivation.Coverage.Document
import RuleActivation.Proofs.Coverage.Report
import RuleActivation.Proofs.Registry.Keys

/-!
# Reading the table of a report back

The markdown document of a report ends in a table. Its lines are cut at the pipes that have no
backslash before them, and a backslash before a pipe is dropped. Since pipes are written with a
backslash, every row is read back as its texts, whatever the name of its rule is. Newlines are
written as they are, though, so that a row whose rule has newlines in its name is several lines.

## Main definitions

* `Table.body`: the lines of a table after its separator
* `Table.pieces`, `Table.unescaped`: a line cut at its pipes, and a cell without its backslashes
* `Rule.IsShownBy`: a line that shows a rule

## Main results

* `Table.pieces_line`, `Table.unescaped_escaped`: what is written is read back
* `CoverageReport.body_markdown`: the lines of the table
* `Registry.body_markdown_shows`: they show the rules if and only if no name has a newline
-/

namespace RuleActivation

/-! ## Tables -/

namespace Table

/-- The lines of a text in which each line ends. -/
def lines (text : List Char) : List (List Char) := (text.splitOn '\n').dropLast

/-- The line between the head and the body of the table. -/
def separator : String := "|---:|------|:------:|----------:|------:|--------|"

/-- The lines after the separator. -/
def body (text : String) : List (List Char) :=
  ((lines text.toList).dropWhile (· ≠ separator.toList)).tail

/-- What is between the pipes that have no backslash before them, where it is given whether there is
a backslash before the text. -/
def pieces (behindBackslash : Bool) : List Char → List (List Char)
  | [] => [[]]
  | c :: cs =>
    if c = '|' ∧ behindBackslash = false then [] :: pieces false cs
    else (pieces (c == '\\') cs).modifyHead (c :: ·)

/-- A text in which pipes have a backslash before them. -/
def escaped (text : List Char) : List Char :=
  text.flatMap fun c => if c = '|' then ['\\', '|'] else [c]

/-- A text without the backslashes before its pipes. -/
def unescaped : List Char → List Char
  | '\\' :: '|' :: cs => '|' :: unescaped cs
  | c :: cs => c :: unescaped cs
  | [] => []

/-- A text between blanks. -/
def padded (text : List Char) : List Char := ' ' :: text ++ [' ']

/-- The line with some cells. -/
def line (cells : List (List Char)) : List Char :=
  cells.flatMap (fun cell => '|' :: padded cell) ++ ['|']

end Table

/-- The texts in the cells of a row. -/
def CoverageRow.texts (row : CoverageRow) : List String :=
  [toString row.rule.toInt, row.name, if row.active then "yes" else "no",
    toString row.variableCount, toString row.caseCount, row.status.name]

/-- What the table says of a rule: its number, its name, whether it is active, the numbers of its
variables and of its cases, and how far it is covered. -/
def Rule.tableTexts (r : Rule) : List String :=
  [toString r.id.toInt, r.name, if r.active then "yes" else "no",
    toString r.variableNames.length,
    toString (if r.active then r.synthesize.cases.length else 0),
    if r.active then (CoverageStatus.ofSynthesis (some r.synthesize)).name
    else CoverageStatus.inactive.name]

/-- A line shows a rule: it begins and ends with a pipe, and between its pipes there are six cells,
which hold the rule's texts. -/
def Rule.IsShownBy (r : Rule) (line : List Char) : Prop :=
  ∃ cells : List (List Char),
    Table.pieces false line = [] :: cells.map Table.padded ++ [[]] ∧
    cells.map Table.unescaped = r.tableTexts.map String.toList

namespace Table

/-! ### Lines -/

theorem lines_append_newline (l rest : List Char) :
    lines (l ++ '\n' :: rest) = l.splitOn '\n' ++ lines rest := by
  rw [lines, List.splitOn_append_cons_self,
    List.dropLast_append_of_ne_nil (List.splitOn_ne_nil _ _), lines]

/-- A line is read as it is, unless it has newlines. -/
theorem lines_textOfLines (ls : List String) :
    lines (textOfLines ls).toList = ls.flatMap fun l => l.toList.splitOn '\n' := by
  induction ls with
  | nil => rfl
  | cons l ls ih =>
    have first : (textOfLines (l :: ls)).toList = l.toList ++ '\n' :: (textOfLines ls).toList := by
      simp [textOfLines, String.join_cons]
    rw [first, lines_append_newline, ih, List.flatMap_cons]

theorem length_splitOn (l : List Char) : (l.splitOn '\n').length = l.count '\n' + 1 := by
  induction l with
  | nil => rfl
  | cons c l ih =>
    rw [List.splitOn_cons_eq_if_modifyHead, List.count_cons]
    split
    · rw [List.length_cons, ih]
    · rw [List.length_modifyHead, ih, Nat.add_zero]

/-! ### Cells -/

theorem escaped_cons (c : Char) (text : List Char) :
    escaped (c :: text) = (if c = '|' then ['\\', '|'] else [c]) ++ escaped text :=
  List.flatMap_cons

theorem escaped_eq_self {text : List Char} (h : '|' ∉ text) : escaped text = text := by
  induction text with
  | nil => rfl
  | cons c text ih =>
    rw [List.mem_cons, not_or] at h
    rw [escaped_cons, if_neg (Ne.symm h.1), ih h.2, List.singleton_append]

theorem count_escaped (text : List Char) : (escaped text).count '\n' = text.count '\n' := by
  induction text with
  | nil => rfl
  | cons c text ih =>
    rw [escaped_cons, List.count_append, ih]
    split
    · rename_i pipe
      subst pipe
      rw [List.count_cons_of_ne (by decide)]
      exact Nat.zero_add _
    · rw [← List.count_append, List.singleton_append]

/-- An escaped text does not begin with a pipe. -/
theorem head?_escaped_ne (text : List Char) : (escaped text).head? ≠ some '|' := by
  cases text with
  | nil => simp [escaped]
  | cons c text =>
    rw [escaped_cons]
    split
    · simp
    · rename_i other
      exact fun h => other (Option.some.inj h)

theorem unescaped_cons {c : Char} {cs : List Char} (h : cs.head? ≠ some '|') :
    unescaped (c :: cs) = c :: unescaped cs := by
  apply unescaped.eq_2
  rintro rest - rfl
  exact h rfl

/-- The backslashes that are dropped are those that have been written. -/
theorem unescaped_escaped (text : List Char) : unescaped (escaped text) = text := by
  induction text with
  | nil => rfl
  | cons c text ih =>
    rw [escaped_cons]
    split
    · rename_i pipe
      subst pipe
      show '|' :: unescaped (escaped text) = _
      rw [ih]
    · rw [List.singleton_append, unescaped_cons (head?_escaped_ne text), ih]

/-- The pipes of an escaped text do not end its cell. -/
theorem pieces_escaped (b : Bool) (text rest : List Char) :
    pieces b (escaped text ++ ' ' :: rest) =
      (pieces false rest).modifyHead (escaped text ++ ' ' :: ·) := by
  -- for both flags at once, since the text can have backslashes of its own
  induction text generalizing b with
  | nil => rfl
  | cons c text ih =>
    rw [escaped_cons]
    split
    · simp [pieces, ih, Function.comp_def]
    · rename_i other
      simp [pieces, ih, other, Function.comp_def]

theorem pieces_padded (text rest : List Char) :
    pieces false ('|' :: padded (escaped text) ++ rest) =
      [] :: (pieces false rest).modifyHead (padded (escaped text) ++ ·) := by
  simp [pieces, padded, pieces_escaped, Function.comp_def]

/-- A line of escaped texts is cut into their cells. -/
theorem pieces_line (texts : List (List Char)) :
    pieces false (line (texts.map escaped)) = [] :: (texts.map escaped).map padded ++ [[]] := by
  induction texts with
  | nil => rfl
  | cons text texts ih =>
    have first : line ((text :: texts).map escaped) =
        '|' :: padded (escaped text) ++ line (texts.map escaped) := by
      simp [line]
    rw [first, pieces_padded, ih]
    simp

/-- Cells between pipes and blanks make a line. -/
theorem append_intercalate_append (cell : List Char) (cells : List (List Char)) :
    ['|', ' '] ++ [' ', '|', ' '].intercalate (cell :: cells) ++ [' ', '|'] =
      line (cell :: cells) := by
  induction cells generalizing cell with
  | nil => simp [line, padded]
  | cons next cells ih =>
    have rest : line (cell :: next :: cells) = '|' :: padded cell ++ line (next :: cells) := by
      simp [line]
    rw [rest, ← ih next, List.intercalate_cons_cons]
    simp [padded]

theorem count_line (cells : List (List Char)) :
    (line cells).count '\n' = (cells.map (List.count '\n')).sum := by
  have cell (text : List Char) : ('|' :: padded text).count '\n' = text.count '\n' := by
    simp [padded]
  rw [line, List.count_append, List.count_flatMap]
  simp [Function.comp_def, cell]

/-! ### Plain cells -/

/-- A text with letters, digits and signs of numbers only. -/
def IsPlain (text : String) : Prop := text.toList.all Json.Scan.isWord = true

variable {text : String}

theorem IsPlain.notMem (plain : IsPlain text) {c : Char} (other : Json.Scan.isWord c = false) :
    c ∉ text.toList := by
  intro mem
  rw [List.all_eq_true.1 plain c mem] at other
  cases other

theorem IsPlain.escaped_eq (plain : IsPlain text) : escaped text.toList = text.toList :=
  escaped_eq_self (plain.notMem (by decide))

theorem IsPlain.count_eq (plain : IsPlain text) : text.toList.count '\n' = 0 :=
  List.count_eq_zero.2 (plain.notMem (by decide))

theorem isPlain_toString_int (i : Int) : IsPlain (toString i) := by
  rw [IsPlain, Text.toList_toString, List.all_eq_true]
  intro c mem
  split at mem
  · rcases List.mem_cons.1 mem with rfl | digit
    · decide
    · exact Json.Number.isWord_of_mem_toDigits digit
  · exact Json.Number.isWord_of_mem_toDigits mem

theorem isPlain_toString_nat (n : Nat) : IsPlain (toString n) := isPlain_toString_int n

theorem isPlain_text (n : Json.Number) : IsPlain n.text := by
  rw [IsPlain, Json.Number.text, String.toList_ofList, List.all_eq_true]
  exact fun c mem => Json.Number.isWord_of_mem_chars mem

theorem isPlain_activity (active : Bool) : IsPlain (if active then "yes" else "no") := by
  cases active <;> rfl

theorem isPlain_name (status : CoverageStatus) : IsPlain status.name := by
  cases status <;> rfl

end Table

/-! ## Rows -/

namespace CoverageRow

open Table

/-- A row is written as the line of its texts. -/
theorem toList_tableLine (row : CoverageRow) :
    row.tableLine.toList = line ((row.texts.map String.toList).map escaped) := by
  have cells : [toString row.rule.toInt, tableCell row.name, if row.active then "yes" else "no",
      toString row.variableCount, toString row.caseCount, row.status.name].map String.toList =
      (row.texts.map String.toList).map escaped := by
    simp only [texts, List.map_cons, List.map_nil, (isPlain_toString_int _).escaped_eq,
      (isPlain_activity _).escaped_eq, (isPlain_toString_nat _).escaped_eq,
      (isPlain_name _).escaped_eq]
    rw [tableCell, String.toList_ofList, escaped]
  rw [tableLine, String.toList_append, String.toList_append, String.toList_intercalate, cells]
  exact append_intercalate_append _ _

theorem count_tableLine (row : CoverageRow) :
    row.tableLine.toList.count '\n' = row.name.toList.count '\n' := by
  rw [toList_tableLine, count_line]
  simp only [texts, List.map_cons, List.map_nil, count_escaped, (isPlain_toString_int _).count_eq,
    (isPlain_activity _).count_eq, (isPlain_toString_nat _).count_eq, (isPlain_name _).count_eq,
    List.sum_cons, List.sum_nil, Nat.add_zero, Nat.zero_add]

end CoverageRow

/-- The row of a rule has the texts of the rule. -/
theorem CoverageRow.texts_of {registry : Registry} {r : Rule} (mem : r ∈ registry.rules) :
    (of registry.synthesize r).texts = r.tableTexts := by
  rw [of_synthesize mem, texts, Rule.tableTexts]
  simp only [apply_ite CoverageStatus.name]

/-- The row of a rule shows the rule. -/
theorem Rule.isShownBy_tableLine {registry : Registry} {r : Rule} (mem : r ∈ registry.rules) :
    r.IsShownBy (CoverageRow.of registry.synthesize r).tableLine.toList := by
  rw [CoverageRow.toList_tableLine, CoverageRow.texts_of mem]
  refine ⟨(r.tableTexts.map String.toList).map Table.escaped, Table.pieces_line _, ?_⟩
  rw [List.map_map]
  conv_rhs => rw [← List.map_id (r.tableTexts.map String.toList)]
  exact List.map_congr_left fun text _ => Table.unescaped_escaped text

/-! ## The document -/

namespace CoverageReport

open Table

variable {report : CoverageReport}

/-- The lines of the totals are items of a list. -/
theorem notMem_of_mem_summaryLines {c : CoverageTotals} {l : String} (mem : l ∈ c.summaryLines) :
    '\n' ∉ l.toList ∧ l.toList.head? = some '-' := by
  have count (n : Nat) : '\n' ∉ Nat.toDigits 10 n := Digit.not_mem_toDigits (by decide) n
  have percentage : '\n' ∉ c.percentage.hundredths.text.toList :=
    (isPlain_text c.percentage.hundredths).notMem (by decide)
  simp only [CoverageTotals.summaryLines, List.mem_cons, List.not_mem_nil, or_false] at mem
  rcases mem with rfl | rfl | rfl | rfl | rfl | rfl <;>
    simp [count, percentage, CoverageTotals.ratioText]

/-- The separator is the last line of the head, and the lines above are others. -/
theorem exists_headLines_eq (report : CoverageReport) :
    ∃ above, report.headLines = above ++ [separator] ∧
      ∀ l ∈ above, '\n' ∉ l.toList ∧ l.toList ≠ separator.toList := by
  refine ⟨["# Rule coverage", ""] ++ report.totals.summaryLines ++
    ["", "| id | name | active | variables | cases | status |"], ?_, ?_⟩
  · simp [headLines, separator]
  · intro l mem
    rw [List.mem_append, List.mem_append] at mem
    rcases mem with (title | summary) | columns
    · revert title l
      decide
    · obtain ⟨unbroken, item⟩ := notMem_of_mem_summaryLines summary
      refine ⟨unbroken, fun same => ?_⟩
      rw [same] at item
      revert item
      decide
    · revert columns l
      decide

/-- The body of the table are the rows, each up to its newlines. -/
theorem body_markdown (report : CoverageReport) :
    body report.markdown = report.rows.flatMap fun row => row.tableLine.toList.splitOn '\n' := by
  obtain ⟨above, head, other⟩ := report.exists_headLines_eq
  have whole : (above.flatMap fun l => l.toList.splitOn '\n') = above.map String.toList := by
    rw [List.map_eq_flatMap]
    exact List.flatMap_congr fun l mem => List.splitOn_eq_singleton (other l mem).1
  have separate : [separator].flatMap (fun l => l.toList.splitOn '\n') = [separator.toList] := by
    decide
  have skipped : ∀ l ∈ above.map String.toList, decide (l ≠ separator.toList) = true := by
    intro l mem
    obtain ⟨text, listed, rfl⟩ := List.mem_map.1 mem
    exact decide_eq_true (other text listed).2
  rw [body, markdown, lines_textOfLines, head, List.flatMap_append, List.flatMap_append, whole,
    separate, List.append_assoc, List.dropWhile_append_of_pos skipped, List.singleton_append,
    List.dropWhile_cons_of_neg (by simp), List.tail_cons, List.flatMap_map]

end CoverageReport

/-! ## All rules -/

namespace Registry

/-- The lines of the rows, in the order of the rules. -/
def tableLines (registry : Registry) : List (List Char) :=
  registry.rules.map fun r => (CoverageRow.of registry.synthesize r).tableLine.toList

theorem body_markdown_analyze (registry : Registry) :
    Table.body registry.analyze.2.markdown = registry.tableLines.flatMap (·.splitOn '\n') := by
  rw [CoverageReport.body_markdown, tableLines, List.flatMap_map, analyze, CoverageReport.build,
    List.flatMap_map]

theorem forall₂_tableLines (registry : Registry) :
    List.Forall₂ Rule.IsShownBy registry.rules registry.tableLines :=
  List.forall₂_map_right_iff.2 (List.forall₂_same.2 fun _ mem => Rule.isShownBy_tableLine mem)

/-- The row of a rule takes a line more than its name has newlines. -/
theorem length_body_markdown (registry : Registry) :
    (Table.body registry.analyze.2.markdown).length =
      (registry.rules.map fun r => r.name.toList.count '\n' + 1).sum := by
  rw [body_markdown_analyze, List.length_flatMap, tableLines, List.map_map]
  refine congrArg List.sum (List.map_congr_left fun r _ => ?_)
  rw [Function.comp_apply, Table.length_splitOn, CoverageRow.count_tableLine, CoverageRow.of]

theorem body_markdown_eq_tableLines {registry : Registry}
    (unbroken : ∀ r ∈ registry.rules, '\n' ∉ r.name.toList) :
    Table.body registry.analyze.2.markdown = registry.tableLines := by
  have single : ∀ l ∈ registry.tableLines, l.splitOn '\n' = [l] := by
    intro l mem
    obtain ⟨r, listed, rfl⟩ := List.mem_map.1 mem
    apply List.splitOn_eq_singleton
    rw [← List.count_eq_zero, CoverageRow.count_tableLine, List.count_eq_zero]
    exact unbroken r listed
  rw [body_markdown_analyze, List.flatMap_congr single, ← List.map_eq_flatMap, List.map_id']

/-- The body of the table are rows that show the rules, in their order, and each row is broken at
the newlines in the name of its rule. So there is one line for each rule, which shows it, if and
only if no name has a newline. -/
theorem body_markdown_shows (registry : Registry) :
    (∃ rows : List (List Char), List.Forall₂ Rule.IsShownBy registry.rules rows ∧
      Table.body registry.analyze.2.markdown = rows.flatMap (·.splitOn '\n')) ∧
    (Table.body registry.analyze.2.markdown).length =
      (registry.rules.map fun r => r.name.toList.count '\n' + 1).sum ∧
    (List.Forall₂ Rule.IsShownBy registry.rules (Table.body registry.analyze.2.markdown) ↔
      ∀ r ∈ registry.rules, '\n' ∉ r.name.toList) := by
  refine ⟨⟨registry.tableLines, registry.forall₂_tableLines, registry.body_markdown_analyze⟩,
    registry.length_body_markdown, ?_, ?_⟩
  · intro shown r mem
    have length := shown.length_eq
    rw [length_body_markdown, List.sum_map_add, List.map_const', List.sum_replicate_nat,
      Nat.mul_one, Nat.right_eq_add, List.sum_eq_zero_iff] at length
    exact List.count_eq_zero.1 (length _ (List.mem_map_of_mem mem))
  · intro unbroken
    rw [body_markdown_eq_tableLines unbroken]
    exact registry.forall₂_tableLines

/-- The table for one rule has two lines if there is a newline in its name. -/
theorem exists_length_body_markdown_ne :
    ∃ document registry, ofJson document = .ok registry ∧ registry.rules.length = 1 ∧
      (Table.body registry.analyze.2.markdown).length = 2 ∧
      ¬ List.Forall₂ Rule.IsShownBy registry.rules (Table.body registry.analyze.2.markdown) := by
  let r := ruleNamed 1 "a\nb"
  have two (registry : Registry) (only : registry.rules = [r]) :
      (Table.body registry.analyze.2.markdown).length = 2 := by
    rw [length_body_markdown, only]
    simp [r, ruleNamed]
  refine ⟨.object [("rules", .array [r.toJson])], _, rfl, rfl, two _ rfl, fun shown => ?_⟩
  have length := shown.length_eq
  rw [two _ rfl] at length
  cases length

end Registry

end RuleActivation
