import Mathlib.Data.List.TakeWhile
import Mathlib.Tactic.Common
import PocketCalculator.Toml.Fault

/-!
# What the report of a fault shows

The report of a fault is made from the place of a value, which is given by the number of characters
that follow it. Here it is said of the text itself: the place parts one line of the text into what
is before and what is after it (`Parted`), and the report shows that line with its number, the
column of the place, and marks under the value. The last line says what is wrong
(`Expected.Refuses`), where a value goes by its kind and mostly by itself too (`Value.Called`).

* **`reported_report`**: the report of a fault shows the line with the value, and says what is wrong
  with it (`Fault.Reported`).
-/

namespace PocketCalculator.Toml

/-! ### The line of a place -/

/-- The place that `left` characters follow parts a line of the text into `before` and `after`;
`head` are the lines above, and `rest` is what follows the line. -/
structure Parted (text : List Char) (left : ℕ) (head before after rest : List Char) : Prop where
  text_eq : text = (head ++ before) ++ (after ++ rest)
  place : head ++ before = text.take (text.length - left)
  /-- The lines above end where the line begins, -/
  head_ends : ∀ c ∈ head.getLast?, c = '\n'
  /-- and it ends where the rest begins. -/
  rest_begins : ∀ c ∈ rest.head?, c = '\n'
  one_line : '\n' ∉ before ++ after

/-- What stands before the first line end has none. -/
theorem not_mem_takeWhile (text : List Char) : '\n' ∉ text.takeWhile (· != '\n') :=
  fun h => absurd (List.mem_takeWhile_imp h) (by decide)

/-- What is left after that begins with a line end. -/
theorem eq_of_head?_dropWhile (text : List Char) :
    ∀ c ∈ (text.dropWhile (· != '\n')).head?, c = '\n' := by
  intro c hc
  have hnot := List.head?_dropWhile_not (· != '\n') text
  rw [Option.mem_def.mp hc] at hnot
  simpa using hnot

/-- Every place parts a line, and the number of the line is one more than the line ends above. -/
theorem exists_parted (text : List Char) (left : ℕ) :
    ∃ head before after rest, Parted text left head before after rest ∧
      Place.ofLeft text left = ⟨head.count '\n' + 1, before, after⟩ := by
  let first := text.take (text.length - left)
  let last := text.drop (text.length - left)
  let head := (first.reverse.dropWhile (· != '\n')).reverse
  let before := (first.reverse.takeWhile (· != '\n')).reverse
  have hfirst : head ++ before = first := by
    rw [← List.reverse_append, List.takeWhile_append_dropWhile, List.reverse_reverse]
  have hbefore : '\n' ∉ before := by
    rw [List.mem_reverse]
    exact not_mem_takeWhile _
  refine ⟨head, before, last.takeWhile (· != '\n'), last.dropWhile (· != '\n'), ?_, ?_⟩
  · constructor
    case text_eq =>
      rw [hfirst, List.takeWhile_append_dropWhile, List.take_append_drop]
    case place => exact hfirst
    case head_ends =>
      rw [List.getLast?_reverse]
      exact eq_of_head?_dropWhile _
    case rest_begins => exact eq_of_head?_dropWhile _
    case one_line =>
      rw [List.mem_append, not_or]
      exact ⟨hbefore, not_mem_takeWhile _⟩
  · have hcount : first.count '\n' = head.count '\n' := by
      rw [← hfirst, List.count_append, List.count_eq_zero_of_not_mem hbefore, Nat.add_zero]
    rw [Place.ofLeft, List.splitAt_eq, ← hcount]

/-! ### What is wrong -/

/-- What a report calls a value. -/
inductive Value.Called : Value → String → Prop
  | string (text : String) : Called (.string text) ("string " ++ Text.quoted text)
  | integer (i : Int) : Called (.integer i) ("integer `" ++ toString i ++ "`")
  | float (x : Binary.Binary64) :
      Called (.float x) ("floating point `" ++ Layout.message.text x ++ "`")
  | yes : Called (.boolean true) "boolean `true`"
  | no : Called (.boolean false) "boolean `false`"
  | array (items : List Value) : Called (.array items) "sequence"
  | tables (latest : Table) (earlier : List Table) : Called (.tables latest earlier) "sequence"
  | moment : Called .moment "map"
  | table (t : Table) : Called (.table t) "map"

/-- What a report says is wrong with a value: that an integer is out of range where one is expected,
or else that the value is of the wrong kind. -/
inductive Expected.Refuses : Expected → Value → String → Prop
  | range (i : Int) :
      Refuses .word (.integer i) ("invalid value: integer `" ++ toString i ++ "`, expected u32")
  | word {v : Value} {called : String} (hkind : ∀ i, v ≠ .integer i) (hcalled : v.Called called) :
      Refuses .word v ("invalid type: " ++ called ++ ", expected u32")
  | boolean {v : Value} {called : String} (hcalled : v.Called called) :
      Refuses .boolean v ("invalid type: " ++ called ++ ", expected a boolean")
  | single {v : Value} {called : String} (hcalled : v.Called called) :
      Refuses .single v ("invalid type: " ++ called ++ ", expected f32")

/-- Every value is called what describes it. -/
theorem Value.called_describe (v : Value) : v.Called v.describe := by
  cases v with
  | boolean b => cases b with
    | true => exact .yes
    | false => exact .no
  | string text => exact .string text
  | integer i => exact .integer i
  | float x => exact .float x
  | moment => exact .moment
  | array items => exact .array items
  | table t => exact .table t
  | tables latest earlier => exact .tables latest earlier

/-- Unless it is the range of an integer, the kind of the value is wrong. -/
theorem Fault.reason_of_kind {fault : Fault}
    (h : ∀ i, fault.found = .integer i → fault.expected ≠ .word) :
    fault.reason
      = "invalid type: " ++ fault.found.describe ++ ", expected " ++ fault.expected.name := by
  rw [reason]
  split
  case h_1 i hfound hexpected => exact absurd hexpected (h i hfound)
  case h_2 => rfl

/-- The reason of a fault says what is wrong with the value. -/
theorem Fault.refuses_reason (fault : Fault) : fault.expected.Refuses fault.found fault.reason := by
  have hcalled := fault.found.called_describe
  by_cases hrange : ∃ i, fault.found = .integer i ∧ fault.expected = .word
  · obtain ⟨i, hfound, hexpected⟩ := hrange
    rw [reason, hfound, hexpected]
    exact .range i
  · have hkind (i) (hfound : fault.found = .integer i) : fault.expected ≠ .word :=
      fun hexpected => hrange ⟨i, hfound, hexpected⟩
    rw [reason_of_kind hkind, String.append_assoc]
    cases hexpected : fault.expected with
    | word => exact .word (fun i hfound => hkind i hfound hexpected) hcalled
    | boolean => exact .boolean hcalled
    | single => exact .single hcalled

/-! ### The lines of a report -/

/-- Blanks in a row. -/
def blanksInRow (n : ℕ) : String := String.ofList (List.replicate n ' ')

/-- The lines of a report that shows a line of a text: its number, the column, the number of marks,
and the reason at the end. -/
def reportLines (number column : ℕ) (line : List Char) (marks : ℕ) (reason : String) :
    List String :=
  let margin := blanksInRow ((toString number).length + 1)
  ["TOML parse error at line " ++ toString number ++ ", column " ++ toString column,
    margin ++ "|",
    toString number ++ " | " ++ String.ofList line,
    margin ++ "|" ++ blanksInRow column ++ String.ofList (List.replicate marks '^'),
    reason,
    ""]

/-- The report shows the line of the fault: the value begins at the column, and there is a mark for
each of its bytes, but at least one and none beyond the end of the line. The reason comes after
it. -/
inductive Fault.Reported (fault : Fault) (text : List Char) : String → Prop
  | shown {head before after rest value : List Char} {marks : ℕ} {reason : String}
      (hparted : Parted text fault.span.start head before after rest)
      (hvalue : value = (after ++ rest).take (fault.span.start - fault.span.stop))
      (hmarks : marks
        = max 1 (min (byteCount value) (byteCount (before ++ after) - before.length)))
      (hreason : fault.expected.Refuses fault.found reason) :
      fault.Reported text ("\n".intercalate (reportLines (head.count '\n' + 1) (before.length + 1)
        (before ++ after) marks reason))

/-- A character repeated at the end of a text. -/
theorem toList_pushn (text : String) (c : Char) (n : ℕ) :
    (text.pushn c n).toList = text.toList ++ List.replicate n c := by
  induction n with
  | zero => simp [String.pushn, Nat.repeat]
  | succ n ih =>
      have hpush : text.pushn c (n + 1) = (text.pushn c n).push c := rfl
      rw [hpush, String.toList_push, ih, List.append_assoc, List.replicate_succ']

/-- A character repeated, and nothing else. -/
theorem pushn_eq_ofList (c : Char) (n : ℕ) :
    "".pushn c n = String.ofList (List.replicate n c) := by
  rw [← String.toList_inj, toList_pushn, String.toList_empty, List.nil_append, String.toList_ofList]

/-- The text of a report is that of its lines. -/
theorem Fault.report_eq_intercalate (fault : Fault) (text : String) (place : Place)
    (hplace : place = Place.ofLeft text.toList fault.span.start) :
    fault.report text = "\n".intercalate (reportLines place.line place.column
      (place.before ++ place.after) (markCount text.toList fault.span) fault.reason) := by
  have hbar : "|\n" = "|" ++ "\n" := rfl
  subst hplace
  unfold report reportLines
  rw [hbar]
  simp only [pushn_eq_ofList, blanksInRow, String.intercalate_cons_cons,
    String.intercalate_singleton, String.append_assoc, String.append_empty]

/-- **The report of a fault shows the line with the value.** -/
theorem Fault.reported_report (fault : Fault) (text : String) :
    fault.Reported text.toList (fault.report text) := by
  obtain ⟨head, before, after, rest, hparted, hplace⟩ :=
    exists_parted text.toList fault.span.start
  have hdrop : text.toList.drop (text.toList.length - fault.span.start) = after ++ rest := by
    rw [← List.append_cancel_left_eq (head ++ before), ← hparted.text_eq, hparted.place,
      List.take_append_drop]
  rw [report_eq_intercalate fault text _ hplace.symm]
  refine .shown hparted rfl ?_ fault.refuses_reason
  rw [markCount, hplace, hdrop]

end PocketCalculator.Toml
