import DumpTopology.Statement
import Mathlib.Data.List.DropRight

/-!
# Collected statements, said without a collector

The collector reads a schema file one line at a time and keeps a pending statement. What it
keeps has a description without state (`keptText` of `textLines`): cut the bytes at
newlines, trim each piece of ASCII blanks at both ends and leave out the pieces that are
then empty; group the remaining lines into runs, each ending at the first line whose last
byte is a semicolon, and leave out the lines after the last such line; join each run's lines
by newlines; and keep, one after another, the joined runs that are not comments, a comment
being a run that opens with `/*` and closes with `*/;`. Everything kept so ends with a
semicolon.

The collector's pending statement is always the lines of an unfinished run, each followed by
a newline (`pendingText`). Folding the remaining pieces from a state with such a pending run
keeps what the description keeps of the pending run followed by the remaining lines
(`foldl_push_kept`), and a file starts with no pending run.
-/
namespace DumpTopology

/-- Whether a line ends a statement: its last byte is a semicolon. -/
def endsStatement (line : List UInt8) : Bool := line.getLast? == some 59

/-- The trimmed pieces of a cut text that are not empty. -/
def nonBlankLines (pieces : List (List UInt8)) : List (List UInt8) :=
  (pieces.map fun l => (l.dropWhile isAsciiBlank).rdropWhile isAsciiBlank).filter (· ≠ [])

/-- The lines of a text that carry something: the pieces between newlines, trimmed of ASCII
blanks at both ends, without those left empty. -/
def textLines (bytes : List UInt8) : List (List UInt8) := nonBlankLines (bytes.splitOn 10)

/-- Lines grouped into runs, each ending at the first line that ends a statement. The lines
after the last such line form no run. -/
def statementRuns : List (List UInt8) → List (List (List UInt8))
  | [] => []
  | l :: rest =>
    if endsStatement l then [l] :: statementRuns rest
    else match statementRuns rest with
      | [] => []
      | run :: runs => (l :: run) :: runs

/-- A comment opens with `/*` and closes with `*/;`. -/
def IsComment (s : List UInt8) : Prop := [47, 42] <+: s ∧ [42, 47, 59] <:+ s

instance : DecidablePred IsComment := fun _ => inferInstanceAs (Decidable (_ ∧ _))

/-- What the statements of some lines leave: each run joined by newlines, the comments left
out, the others one after another. -/
def keptText (lines : List (List UInt8)) : List UInt8 :=
  (((statementRuns lines).map ([10].intercalate)).filter (¬ IsComment ·)).flatten

/-- The pending text of an unfinished run: each line followed by a newline. -/
def pendingText (run : List (List UInt8)) : List UInt8 := (run.map (· ++ [10])).flatten

@[simp] theorem nonBlankLines_nil : nonBlankLines [] = [] := rfl

/-- The trimming of the description is the collector's. -/
theorem nonBlankLines_eq (pieces : List (List UInt8)) :
    nonBlankLines pieces = (pieces.map trimLine).filter (· ≠ []) := rfl

theorem nonBlankLines_cons (x : List UInt8) (xs : List (List UInt8)) :
    nonBlankLines (x :: xs) =
      if trimLine x = [] then nonBlankLines xs else trimLine x :: nonBlankLines xs := by
  rw [nonBlankLines_eq, nonBlankLines_eq, List.map_cons, List.filter_cons]
  by_cases h : trimLine x = [] <;> simp [h]

theorem isCommentStatement_eq (s : List UInt8) : isCommentStatement s = decide (IsComment s) := by
  rw [Bool.eq_iff_iff, decide_eq_true_iff]
  simp [isCommentStatement, IsComment, List.isPrefixOf_iff_prefix, List.isSuffixOf_iff_suffix]

@[simp] theorem pendingText_nil : pendingText [] = [] := rfl

theorem pendingText_append_line (run : List (List UInt8)) (l : List UInt8) :
    pendingText (run ++ [l]) = pendingText run ++ l ++ [10] := by
  simp [pendingText]

/-- A pending run followed by the line that ends it is the run joined by newlines. -/
theorem pendingText_append_eq_intercalate (run : List (List UInt8)) (l : List UInt8) :
    pendingText run ++ l = [10].intercalate (run ++ [l]) := by
  induction run with
  | nil => simp
  | cons r run ih =>
    rw [List.cons_append, List.intercalate_cons_of_ne_nil (by simp), ← ih]
    simp [pendingText]

/-- Lines none of which ends a statement form no run. -/
theorem statementRuns_of_open {run : List (List UInt8)}
    (hrun : ∀ l ∈ run, endsStatement l = false) : statementRuns run = [] := by
  induction run with
  | nil => rfl
  | cons r run ih =>
    rw [statementRuns, if_neg (by simp [hrun r List.mem_cons_self]),
      ih fun l hl => hrun l (List.mem_cons_of_mem r hl)]

/-- Open lines followed by a line that ends a statement form the first run. -/
theorem statementRuns_append_of_open {run : List (List UInt8)} {l : List UInt8}
    (rest : List (List UInt8)) (hrun : ∀ x ∈ run, endsStatement x = false)
    (hl : endsStatement l = true) :
    statementRuns (run ++ l :: rest) = (run ++ [l]) :: statementRuns rest := by
  induction run with
  | nil => simp [statementRuns, hl]
  | cons r run ih =>
    rw [List.cons_append, statementRuns, if_neg (by simp [hrun r List.mem_cons_self]),
      ih fun x hx => hrun x (List.mem_cons_of_mem r hx)]
    rfl

theorem keptText_of_open {run : List (List UInt8)} (hrun : ∀ l ∈ run, endsStatement l = false) :
    keptText run = [] := by
  simp [keptText, statementRuns_of_open hrun]

/-- The first run of the lines is kept in front of what the rest keeps, unless it is a
comment. -/
theorem keptText_append_of_open {run : List (List UInt8)} {l : List UInt8}
    (rest : List (List UInt8)) (hrun : ∀ x ∈ run, endsStatement x = false)
    (hl : endsStatement l = true) :
    keptText (run ++ l :: rest) =
      (if IsComment (pendingText run ++ l) then [] else pendingText run ++ l) ++ keptText rest := by
  rw [keptText, statementRuns_append_of_open rest hrun hl, pendingText_append_eq_intercalate]
  by_cases hc : IsComment ([10].intercalate (run ++ [l])) <;> simp [keptText, hc]

theorem getLast?_append_of_ne_nil (p : List UInt8) {l : List UInt8} (hl : l ≠ []) :
    (p ++ l).getLast? = l.getLast? := by
  rw [List.getLast?_append, List.getLast?_eq_some_getLast hl]
  rfl

/-- One line into the collector, from a pending run: a blank line changes nothing; a line
that ends a statement closes the run and keeps it unless it is a comment; any other line
joins the run. -/
theorem push_pending (kept : List UInt8) (run : List (List UInt8)) (x : List UInt8) :
    Collector.push ⟨kept, pendingText run⟩ x =
      if trimLine x = [] then ⟨kept, pendingText run⟩
      else if endsStatement (trimLine x) then
        if IsComment (pendingText run ++ trimLine x) then ⟨kept, pendingText []⟩
        else ⟨kept ++ (pendingText run ++ trimLine x), pendingText []⟩
      else ⟨kept, pendingText (run ++ [trimLine x])⟩ := by
  by_cases ht : trimLine x = []
  · simp [Collector.push, ht]
  · have hlast := getLast?_append_of_ne_nil (pendingText run) ht
    simp only [Collector.push, ht, if_false, List.isEmpty_iff, hlast, endsStatement,
      isCommentStatement_eq, decide_eq_true_eq, pendingText_append_line, pendingText_nil]

/-- Folding the remaining pieces of a file from a pending run keeps what the declarative
reading keeps of the pending run followed by the remaining lines. -/
theorem foldl_push_kept (pieces : List (List UInt8)) (kept : List UInt8)
    (run : List (List UInt8)) (hrun : ∀ l ∈ run, endsStatement l = false) :
    (pieces.foldl Collector.push ⟨kept, pendingText run⟩).kept =
      kept ++ keptText (run ++ nonBlankLines pieces) := by
  -- induction on the pieces, with the kept text and the pending run generalised
  induction pieces generalizing kept run with
  | nil => simp [keptText_of_open hrun]
  | cons x xs ih =>
    rw [List.foldl_cons, push_pending, nonBlankLines_cons]
    by_cases ht : trimLine x = []
    · simp only [ht, if_true]
      exact ih kept run hrun
    by_cases he : endsStatement (trimLine x) = true
    · simp only [ht, if_false, he, if_true]
      rw [keptText_append_of_open _ hrun he]
      by_cases hc : IsComment (pendingText run ++ trimLine x)
      · simp only [hc, if_true, ih kept [] (by simp), List.nil_append]
      · simp only [hc, if_false, ih _ [] (by simp), List.nil_append, List.append_assoc]
    · have hrun' : ∀ l ∈ run ++ [trimLine x], endsStatement l = false := by
        intro l hl
        rcases List.mem_append.mp hl with hl | hl
        · exact hrun l hl
        · rw [List.mem_singleton.mp hl]
          simpa using he
      simp only [ht, if_false, he, Bool.false_eq_true, ih kept _ hrun', List.append_assoc,
        List.singleton_append]

/-- Every run ends with a line that ends a statement. -/
theorem exists_endsStatement_of_mem_statementRuns {lines : List (List UInt8)}
    {run : List (List UInt8)} (h : run ∈ statementRuns lines) :
    ∃ pre l, run = pre ++ [l] ∧ endsStatement l = true := by
  induction lines generalizing run with
  | nil => simp [statementRuns] at h
  | cons x xs ih =>
    rw [statementRuns] at h
    split at h
    · rcases List.mem_cons.mp h with rfl | h
      · exact ⟨[], x, rfl, ‹_›⟩
      · exact ih h
    · split at h
      · simp at h
      · rename_i r rs hrs
        rcases List.mem_cons.mp h with rfl | h
        · obtain ⟨pre, l, rfl, hl⟩ := ih (hrs ▸ List.mem_cons_self)
          exact ⟨x :: pre, l, rfl, hl⟩
        · exact ih (hrs ▸ List.mem_cons_of_mem r h)

/-- Texts that each end with a semicolon, one after another, are empty or end with one. -/
theorem flatten_ends {ss : List (List UInt8)} (h : ∀ s ∈ ss, s.getLast? = some 59) :
    ss.flatten = [] ∨ ss.flatten.getLast? = some 59 := by
  induction ss with
  | nil => simp
  | cons s ss ih =>
    right
    rcases ih fun t ht => h t (List.mem_cons_of_mem s ht) with hnil | hlast
    · rw [List.flatten_cons, hnil, List.append_nil]
      exact h s List.mem_cons_self
    · rw [List.flatten_cons, List.getLast?_append, hlast]
      rfl

/-- Joined runs end with a semicolon, so what is kept of them is empty or ends with one. -/
theorem keptText_ends (lines : List (List UInt8)) :
    keptText lines = [] ∨ (keptText lines).getLast? = some 59 := by
  refine flatten_ends fun s hs => ?_
  obtain ⟨run, hrun, rfl⟩ := List.mem_map.mp (List.mem_filter.mp hs).1
  obtain ⟨pre, l, rfl, hl⟩ := exists_endsStatement_of_mem_statementRuns hrun
  have hne : l ≠ [] := by
    rintro rfl
    simp [endsStatement] at hl
  rw [← pendingText_append_eq_intercalate, getLast?_append_of_ne_nil _ hne]
  simpa [endsStatement] using hl

/-- The collector keeps what the declarative reading does: the file's bytes cut at newlines,
each piece trimmed of ASCII blanks, the blank ones left out, the lines grouped into runs
ending at the first line whose last byte is a semicolon (lines after the last one left out),
each run joined by newlines, and the joined runs that are not comments kept one after
another. So what is kept is empty or ends with a semicolon. -/
theorem collectStatements_eq_keptText (bytes : List UInt8) :
    collectStatements bytes = keptText (textLines bytes) ∧
      (collectStatements bytes = [] ∨ (collectStatements bytes).getLast? = some 59) := by
  have h : collectStatements bytes = keptText (textLines bytes) := by
    have := foldl_push_kept (bytes.splitOn 10) [] [] (by simp)
    simpa [textLines, collectStatements] using this
  exact ⟨h, h ▸ keptText_ends _⟩

example : keptText (textLines
      "/*!40101 SET NAMES binary*/;\n\nCREATE TABLE t (\n  id int\n) ENGINE=InnoDB;\nDROP".toUTF8.toList) =
    "CREATE TABLE t (\nid int\n) ENGINE=InnoDB;".toUTF8.toList := by
  decide +kernel

end DumpTopology
