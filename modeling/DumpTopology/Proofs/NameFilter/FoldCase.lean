import DumpTopology.NameFilter
import DumpTopology.Proofs.Checked
import DumpTopology.Proofs.NameFilter.KeptSchemas
import DumpTopology.Proofs.Text.CaseTables
import Mathlib.Data.List.Forall2

/-!
# Ignoring case reads a rule list again

A rule list that ignores case is read again from its rules' printed lines, each lowercased
as a whole. Printing keeps a rule: its line reads back as the rule (`FilterRule.parse_toLine`).
Lowercasing fixes the characters that shape a line, the dot, `!`, `#` and blanks, and makes
none of them out of another character (`Text.eq_of_mem_lowerAt`). So a lowercased line is
still trimmed, still a rule line, splits where the printed line did, and reads as the rule
with its polarity and its two patterns lowercased.

The patterns are lowercased as parts of the line, not each on its own
(`FilterRule.foldedSchema`, `FilterRule.foldedTable`). The two differ for a capital sigma,
whose lowercase form depends on its neighbours: it is the final `ς` at the end of a word
and `σ` inside one. The dot between the patterns is case-ignorable and ends no word, so a
schema pattern `AΣ` printed before the table pattern `B` lowercases to `aσ`, whereas the
schema name `AΣ`, lowercased on its own when it is queried, becomes `aς`. The rule then no
longer matches the names it was written for (`RuleFilter.caseInsensitive_misses_final_sigma`).
-/
namespace DumpTopology

-- A proof that first opens a definition generates its equations, which waits until all
-- that comes before the definition is checked. Generating them here, once, spares the proofs
-- below that wait; the short sections after this module's own definitions do the same.
section
attribute [local simp] Text.lowerAt Text.lowerFrom Text.lowercase Text.trimBlank
  Text.trimBlankChars FilterRule.splitFirst FilterRule.toLine FilterRule.parse
  RuleFilter.isRuleLine NameFilter.caseInsensitive FilterForm.foldCase RuleFilter.parse
end

namespace Text

/-! ## Lowercasing part of a text -/

/-- The lowercase form of the characters `xs` as they stand in a text, after the characters
`before` (nearest first) and before the characters `after`. -/
def lowerIn (before : List Char) : List Char → List Char → List Char
  | [], _ => []
  | c :: rest, after => lowerAt before c (rest ++ after) ++ lowerIn (c :: before) rest after

section
attribute [local simp] lowerIn
end

theorem lowerFrom_eq_lowerIn (before xs : List Char) :
    lowerFrom before xs = lowerIn before xs [] := by
  induction xs generalizing before with
  | nil => rfl
  | cons c xs ih => simp [lowerFrom, lowerIn, ih]

/-- A text lowercases part by part, each part in its surroundings. -/
theorem lowerIn_append (before xs ys after : List Char) :
    lowerIn before (xs ++ ys) after =
      lowerIn before xs (ys ++ after) ++ lowerIn (xs.reverse ++ before) ys after := by
  induction xs generalizing before with
  | nil => rfl
  | cons c xs ih => simp [lowerIn, ih]

theorem lowerIn_singleton (before after : List Char) (c : Char) :
    lowerIn before [c] after = lowerAt before c after := by
  simp [lowerIn]

/-! ## Lowercasing keeps the marks of a rule line -/

/-- The characters that shape a rule line: the dot between the patterns, the marks of
negation and of comments, and blanks. -/
def isLineMark (c : Char) : Bool := c == '.' || c == '!' || c == '#' || isBlank c

section
attribute [local simp] isLineMark
end

/-- Lowercasing makes no line mark out of another character. -/
theorem eq_of_mem_lowerAt {before after : List Char} {c x : Char}
    (hx : x ∈ lowerAt before c after) (hmark : isLineMark x = true) : x = c := by
  obtain ⟨htable, ⟨hi, hdotAbove, hfinal, hsigma⟩, -⟩ := lowerTables_spare_marks
  unfold lowerAt at hx
  split at hx
  · simp only [List.mem_cons, List.not_mem_nil, or_false] at hx
    rcases hx with rfl | rfl
    · simp [isLineMark, hi] at hmark
    · simp [isLineMark, hdotAbove] at hmark
  · split at hx
    · split at hx <;> simp only [List.mem_singleton] at hx <;> subst hx
      · simp [isLineMark, hfinal] at hmark
      · simp [isLineMark, hsigma] at hmark
    · rw [List.mem_singleton] at hx
      rcases lowerSimple_eq_or_mem c with h | ⟨l, hl, h⟩
      · exact hx.trans h
      · rw [hx.trans h] at hmark
        have hfree : (!isLineMark (Char.ofNat l)) = true := List.all_eq_true.mp htable l hl
        simp [hmark] at hfree

theorem lowerAt_ne_nil (before after : List Char) (c : Char) : lowerAt before c after ≠ [] := by
  unfold lowerAt
  split
  · simp
  · split
    · split <;> simp
    · simp

/-- A line mark of a lowercased part is a character of the part. -/
theorem mem_of_mem_lowerIn {before xs after : List Char} {x : Char}
    (hx : x ∈ lowerIn before xs after) (hmark : isLineMark x = true) : x ∈ xs := by
  induction xs generalizing before with
  | nil => cases hx
  | cons c xs ih =>
    rcases List.mem_append.mp hx with hx | hx
    · exact eq_of_mem_lowerAt hx hmark ▸ List.mem_cons_self
    · exact List.mem_cons_of_mem _ (ih hx)

/-- The first character of a lowercased part, followed by anything, is a line mark only if
it is the part's first. -/
theorem eq_of_head_lowerIn {before after rest xs : List Char} {c y : Char}
    (hy : y ∈ (lowerIn before (c :: xs) after ++ rest).head?) (hmark : isLineMark y = true) :
    y = c := by
  obtain ⟨z, zs, hz⟩ := List.exists_cons_of_ne_nil (lowerAt_ne_nil before (xs ++ after) c)
  have hzy : z = y := by simpa [lowerIn, hz] using hy
  subst hzy
  exact eq_of_mem_lowerAt (hz ▸ List.mem_cons_self) hmark

/-- The last character of a lowercased part, after anything, is a line mark only if it is
the part's last. -/
theorem eq_of_getLast_lowerIn {before after rest xs : List Char} {c y : Char}
    (hy : y ∈ (rest ++ lowerIn before (xs ++ [c]) after).getLast?)
    (hmark : isLineMark y = true) : y = c := by
  rw [lowerIn_append, lowerIn_singleton, ← List.append_assoc] at hy
  cases hz : (lowerAt (xs.reverse ++ before) c after).getLast? with
  | none => exact absurd (List.getLast?_eq_none_iff.mp hz) (lowerAt_ne_nil _ _ _)
  | some z =>
    have hzy : z = y := by simpa [List.getLast?_append, hz] using hy
    subst hzy
    exact eq_of_mem_lowerAt (List.mem_of_getLast? hz) hmark

/-- A character that is a line mark only as `c` is, like `c`, neither blank nor, where asked,
a mark of negation or comment. -/
theorem lineStart_of_eq_of_mark {positive : Bool} {c y : Char}
    (hyc : isLineMark y = true → y = c)
    (hc : isBlank c = false ∧ (positive = true → c ≠ '!' ∧ c ≠ '#')) :
    isBlank y = false ∧ (positive = true → y ≠ '!' ∧ y ≠ '#') := by
  cases hmark : isLineMark y with
  | true => exact hyc hmark ▸ hc
  | false =>
    simp only [isLineMark, Bool.or_eq_false_iff, beq_eq_false_iff_ne] at hmark
    exact ⟨hmark.2, fun _ => ⟨hmark.1.1.2, hmark.1.2⟩⟩

/-! ## Trimmed lines -/

theorem dropWhile_eq_self {p : Char → Bool} {cs : List Char}
    (h : ∀ c ∈ cs.head?, p c = false) : cs.dropWhile p = cs := by
  cases cs with
  | nil => rfl
  | cons c cs => simp [h c rfl]

/-- A line whose ends are not blank is trimmed already. -/
theorem trimBlankChars_eq_self {cs : List Char} (hhead : ∀ c ∈ cs.head?, isBlank c = false)
    (hlast : ∀ c ∈ cs.getLast?, isBlank c = false) : trimBlankChars cs = cs := by
  unfold trimBlankChars
  rw [dropWhile_eq_self hhead, dropWhile_eq_self (by simpa [List.head?_reverse] using hlast),
    List.reverse_reverse]

/-- A trimmed line neither starts nor ends with a blank. -/
theorem ends_trimBlankChars (cs : List Char) :
    (∀ c ∈ (trimBlankChars cs).head?, isBlank c = false) ∧
      ∀ c ∈ (trimBlankChars cs).getLast?, isBlank c = false := by
  unfold trimBlankChars
  -- the trailing blanks go from the reversed line, whose first character is then kept
  have hlast := List.head?_dropWhile_not isBlank (cs.dropWhile isBlank).reverse
  have hfirst := List.head?_dropWhile_not isBlank cs
  -- the trimmed line is a prefix of the line without its leading blanks
  have hprefix : ((cs.dropWhile isBlank).reverse.dropWhile isBlank).reverse <+:
      cs.dropWhile isBlank := by
    have := List.dropWhile_suffix (l := (cs.dropWhile isBlank).reverse) isBlank
    rwa [← List.reverse_reverse ((cs.dropWhile isBlank).reverse.dropWhile isBlank),
      List.reverse_suffix] at this
  constructor
  · intro c hc
    obtain ⟨rest, hrest⟩ := hprefix
    rw [Option.mem_def] at hc
    rw [← hrest, List.head?_append, hc, Option.some_or] at hfirst
    exact hfirst
  · intro c hc
    rw [List.getLast?_reverse] at hc
    rw [hc] at hlast
    exact hlast

theorem trimBlank_trimBlank (s : String) : trimBlank (trimBlank s) = trimBlank s := by
  obtain ⟨hhead, hlast⟩ := ends_trimBlankChars s.toList
  simp only [trimBlank, String.toList_ofList, trimBlankChars_eq_self hhead hlast]

end Text

namespace FilterRule

/-! ## Printed lines read back -/

/-- A text split at its first dot. -/
theorem splitFirst_ofList {xs ys : List Char} (h : '.' ∉ xs) :
    splitFirst (String.ofList (xs ++ '.' :: ys)) '.' = some (String.ofList xs, String.ofList ys) := by
  have hnone : xs.findIdx? (· == '.') = none :=
    List.findIdx?_eq_none_iff.mpr fun x hx => by
      simpa using fun hx' : x = '.' => h (hx' ▸ hx)
  simp [splitFirst, List.findIdx?_append, List.findIdx?_cons, hnone]

theorem eq_of_splitFirst {s a b : String} (h : splitFirst s '.' = some (a, b)) :
    s.toList = a.toList ++ '.' :: b.toList ∧ '.' ∉ a.toList := by
  unfold splitFirst at h
  dsimp only at h
  split at h
  · next i hi =>
    obtain ⟨hlt, hdot, hbefore⟩ := List.findIdx?_eq_some_iff_getElem.mp hi
    simp only [Option.some.injEq, Prod.mk.injEq] at h
    obtain ⟨rfl, rfl⟩ := h
    simp only [beq_iff_eq] at hdot
    simp only [String.toList_ofList]
    refine ⟨?_, fun hmem => ?_⟩
    · rw [← hdot, List.getElem_cons_drop, List.take_append_drop]
    · obtain ⟨j, hj, hjdot⟩ := List.getElem_of_mem hmem
      have hji : j < i := by
        simp only [List.length_take] at hj
        omega
      exact hbefore j hji (by simpa [List.getElem_take] using hjdot)
  · cases h

/-- The mark of a rule line: `!` before a negative rule. -/
def mark (positive : Bool) : List Char := if positive then [] else ['!']

section
attribute [local simp] mark
end

/-- The body `xs.ys` of a rule line that reads back as written: the schema part has no dot,
and the body neither starts nor ends with a blank, nor, in a positive rule, starts with the
mark of a negation or of a comment. -/
structure ReadableBody (positive : Bool) (xs ys : List Char) : Prop where
  no_dot : '.' ∉ xs
  head : ∀ c ∈ (xs ++ '.' :: ys).head?,
    Text.isBlank c = false ∧ (positive = true → c ≠ '!' ∧ c ≠ '#')
  last : ∀ c ∈ (xs ++ '.' :: ys).getLast?, Text.isBlank c = false

/-- A line with a readable body reads as the rule of its polarity and its two parts. -/
theorem parse_of_readableBody {positive : Bool} {xs ys : List Char}
    (h : ReadableBody positive xs ys) :
    parse (String.ofList (mark positive ++ xs ++ '.' :: ys)) =
      (do return ⟨positive, ← Wildcard.compile (String.ofList xs) false,
        ← Wildcard.compile (String.ofList ys) false⟩) := by
  obtain ⟨c, cs, hcs⟩ : ∃ c cs, xs ++ '.' :: ys = c :: cs := by
    cases xs with
    | nil => exact ⟨_, _, rfl⟩
    | cons x xs => exact ⟨_, _, rfl⟩
  have hc : (xs ++ '.' :: ys).head? = some c := by rw [hcs]; rfl
  have hhead := h.head c hc
  cases positive with
  | false =>
    have hstart : (String.ofList (mark false ++ xs ++ '.' :: ys)).startsWith "!" = true := by
      simp [mark]
    have hdrop : (String.ofList (mark false ++ xs ++ '.' :: ys)).toList.drop 1 = xs ++ '.' :: ys := by
      simp [mark]
    have htrim : Text.trimBlank (String.ofList (xs ++ '.' :: ys)) =
        String.ofList (xs ++ '.' :: ys) := by
      rw [Text.trimBlank, String.toList_ofList,
        Text.trimBlankChars_eq_self (by simpa [hc] using hhead.1) h.last]
    unfold parse
    simp only [hstart, if_true, hdrop, htrim, splitFirst_ofList h.no_dot]
  | true =>
    have hstart : (String.ofList (xs ++ '.' :: ys)).startsWith "!" = false := by
      simp [hcs, Ne.symm (hhead.2 rfl).1]
    rw [show mark true ++ xs ++ '.' :: ys = xs ++ '.' :: ys from rfl]
    unfold parse
    simp only [hstart, Bool.false_eq_true, if_false, splitFirst_ofList h.no_dot]

/-- A rule as read from a trimmed rule line: its body reads back, and its patterns are
compiled from their own texts. -/
structure Printable (r : FilterRule) : Prop where
  body : ReadableBody r.positive r.schema.source.toList r.table.source.toList
  schema : Wildcard.compile r.schema.source false = .ok r.schema
  table : Wildcard.compile r.table.source false = .ok r.table

/-- A rule body split at its first dot reads back when its ends do. -/
theorem readableBody_of_splitFirst {body a b : String} {positive : Bool}
    (hsplit : splitFirst body '.' = some (a, b))
    (hhead : ∀ c ∈ body.toList.head?,
      Text.isBlank c = false ∧ (positive = true → c ≠ '!' ∧ c ≠ '#'))
    (hlast : ∀ c ∈ body.toList.getLast?, Text.isBlank c = false) :
    ReadableBody positive a.toList b.toList := by
  obtain ⟨hbody, hdot⟩ := eq_of_splitFirst hsplit
  rw [hbody] at hhead hlast
  exact ⟨hdot, hhead, hlast⟩

/-- What a successful read of the two parts of a body gives: the rule of the polarity with
the two parts compiled. -/
theorem compile_of_read {s t : String} {positive : Bool} {r : FilterRule}
    (h : (do return ⟨positive, ← Wildcard.compile s false, ← Wildcard.compile t false⟩ :
      Except RuleFault FilterRule) = .ok r) :
    r.positive = positive ∧ r.schema.source = s ∧ r.table.source = t ∧
      Wildcard.compile r.schema.source false = .ok r.schema ∧
      Wildcard.compile r.table.source false = .ok r.table := by
  obtain ⟨ws, hws, h⟩ := except_bind_eq_ok.mp h
  obtain ⟨wt, hwt, h⟩ := except_bind_eq_ok.mp h
  rw [except_pure_eq_ok] at h
  subst h
  rw [Wildcard.source_of_compile hws, Wildcard.source_of_compile hwt]
  exact ⟨rfl, rfl, rfl, hws, hwt⟩

theorem printable_of_parse {line : String} {r : FilterRule} (htrim : Text.trimBlank line = line)
    (hrule : RuleFilter.isRuleLine line = true) (h : parse line = .ok r) : r.Printable := by
  unfold parse at h
  by_cases hneg : line.startsWith "!" = true
  · -- a negation: the rest of the line, trimmed, is the body
    simp only [hneg, if_true] at h
    split at h
    · cases h
    next a b hsplit =>
    obtain ⟨hpos, rfl, rfl, hs, ht⟩ := compile_of_read h
    obtain ⟨hhead, hlast⟩ := Text.ends_trimBlankChars (line.toList.drop 1)
    refine ⟨readableBody_of_splitFirst hsplit ?_ ?_, hs, ht⟩
    · intro c hc
      simp only [Text.trimBlank, String.toList_ofList] at hc
      exact ⟨hhead c hc, by simp [hpos]⟩
    · simpa [Text.trimBlank] using hlast
  · -- the whole line is the body; it starts with neither `!` nor `#`
    simp only [hneg, Bool.false_eq_true, if_false] at h
    split at h
    · cases h
    next a b hsplit =>
    obtain ⟨hpos, rfl, rfl, hs, ht⟩ := compile_of_read h
    obtain ⟨hhead, hlast⟩ := Text.ends_trimBlankChars line.toList
    have hline : Text.trimBlankChars line.toList = line.toList := by
      rw [← String.toList_ofList (l := Text.trimBlankChars line.toList)]
      exact congrArg String.toList htrim
    rw [hline] at hhead hlast
    refine ⟨readableBody_of_splitFirst hsplit (fun c hc => ⟨hhead c hc, fun _ => ?_⟩) hlast, hs, ht⟩
    obtain ⟨cs, hcs⟩ : ∃ cs, line.toList = c :: cs := by
      cases hl : line.toList with
      | nil => simp [hl] at hc
      | cons d cs => simp only [hl, List.head?_cons, Option.mem_def, Option.some.injEq] at hc; exact ⟨cs, hc ▸ rfl⟩
    rw [← String.ofList_toList (s := line), hcs] at hneg hrule
    simp only [RuleFilter.isRuleLine] at hrule
    constructor
    · intro hbang
      simp [hbang] at hneg
    · intro hhash
      simp [hhash] at hrule

theorem toList_toLine (r : FilterRule) :
    r.toLine.toList = mark r.positive ++ r.schema.source.toList ++ '.' :: r.table.source.toList := by
  cases hp : r.positive <;> simp [toLine, hp, mark]

/-- A rule read from a line reads back from its printed line. -/
theorem parse_toLine {r : FilterRule} (h : r.Printable) : parse r.toLine = .ok r := by
  have hline : r.toLine = String.ofList (mark r.positive ++ r.schema.source.toList ++
      '.' :: r.table.source.toList) := by
    rw [← toList_toLine, String.ofList_toList]
  rw [hline, parse_of_readableBody h.body, String.ofList_toList, String.ofList_toList, h.schema,
    h.table]
  rfl

/-! ## Lowercased lines read back -/

/-- The schema pattern lowercased as it stands in the rule's printed line. -/
def foldedSchema (r : FilterRule) : String :=
  String.ofList (Text.lowerIn (mark r.positive) r.schema.source.toList
    ('.' :: r.table.source.toList))

/-- The table pattern lowercased as it stands in the rule's printed line. -/
def foldedTable (r : FilterRule) : String :=
  String.ofList (Text.lowerIn ('.' :: r.schema.source.toList.reverse ++ mark r.positive)
    r.table.source.toList [])

section
attribute [local simp] foldedSchema foldedTable
end

theorem lowerIn_mark (positive : Bool) (after : List Char) :
    Text.lowerIn [] (mark positive) after = mark positive := by
  cases positive with
  | true => rfl
  | false => simp [mark, Text.lowerIn, Text.lowerAt, Text.lowerSimple_dot_bang.2.1]

theorem lowerIn_dot (before after : List Char) : Text.lowerIn before ['.'] after = ['.'] := by
  simp [Text.lowerIn, Text.lowerAt, Text.lowerSimple_dot_bang.1]

/-- The printed line lowercased is its mark and its two patterns lowercased in place. -/
theorem toList_lowercase_toLine (r : FilterRule) :
    (Text.lowercase r.toLine).toList =
      mark r.positive ++ r.foldedSchema.toList ++ '.' :: r.foldedTable.toList := by
  have hrev : (mark r.positive).reverse = mark r.positive := by
    cases r.positive <;> rfl
  rw [Text.lowercase, String.toList_ofList, toList_toLine, Text.lowerFrom_eq_lowerIn,
    List.append_assoc, Text.lowerIn_append, lowerIn_mark, Text.lowerIn_append,
    ← List.singleton_append, Text.lowerIn_append, lowerIn_dot, foldedSchema, foldedTable,
    String.toList_ofList, String.toList_ofList, hrev]
  simp

/-- Lowercasing a readable body in place leaves it readable. -/
theorem readableBody_lower {positive : Bool} {xs ys : List Char}
    (h : ReadableBody positive xs ys) :
    ReadableBody positive (Text.lowerIn (mark positive) xs ('.' :: ys))
      (Text.lowerIn ('.' :: xs.reverse ++ mark positive) ys []) := by
  have hdot : Text.isLineMark '.' = true := rfl
  have hdotBlank : Text.isBlank '.' = false := Text.lowerSimple_dot_bang.2.2.1
  refine ⟨fun hmem => h.no_dot (Text.mem_of_mem_lowerIn hmem hdot), ?_, ?_⟩
  · -- the first character is the dot, or the lowercase form of the body's first
    intro y hy
    cases xs with
    | nil =>
      have hyd : y = '.' := by simpa [Text.lowerIn] using hy.symm
      subst hyd
      exact ⟨hdotBlank, fun _ => by decide⟩
    | cons c xs =>
      exact Text.lineStart_of_eq_of_mark (Text.eq_of_head_lowerIn hy) (h.head c rfl)
  · -- the last character is the dot, or the lowercase form of the body's last
    intro y hy
    rcases List.eq_nil_or_concat ys with rfl | ⟨zs, c, rfl⟩
    · have hyd : y = '.' := by simpa [Text.lowerIn] using hy.symm
      subst hyd
      exact hdotBlank
    · rw [List.concat_eq_append] at h hy
      have hlast := h.last c (by
        rw [← List.cons_append, ← List.append_assoc, List.getLast?_concat]
        rfl)
      have hy' : y ∈ ((Text.lowerIn (mark positive) xs ('.' :: (zs ++ [c])) ++ ['.']) ++
          Text.lowerIn ('.' :: xs.reverse ++ mark positive) (zs ++ [c]) []).getLast? := by
        rwa [List.append_assoc, List.singleton_append]
      have hc : Text.isBlank c = false ∧ (false = true → c ≠ '!' ∧ c ≠ '#') := ⟨hlast, nofun⟩
      exact (Text.lineStart_of_eq_of_mark (Text.eq_of_getLast_lowerIn hy') hc).1

theorem readableBody_folded {r : FilterRule} (h : r.Printable) :
    ReadableBody r.positive r.foldedSchema.toList r.foldedTable.toList := by
  simp only [foldedSchema, foldedTable, String.toList_ofList]
  exact readableBody_lower h.body

/-- A printed rule line, lowercased, reads as the rule with its patterns lowercased in
place. -/
theorem parse_lowercase_toLine {r : FilterRule} (h : r.Printable) :
    parse (Text.lowercase r.toLine) =
      (do return ⟨r.positive, ← Wildcard.compile r.foldedSchema false,
        ← Wildcard.compile r.foldedTable false⟩) := by
  rw [← String.ofList_toList (s := Text.lowercase r.toLine), toList_lowercase_toLine,
    parse_of_readableBody (readableBody_folded h), String.ofList_toList, String.ofList_toList]

/-- A line with a readable body is trimmed and is a rule line. -/
theorem line_of_readableBody {positive : Bool} {xs ys : List Char}
    (h : ReadableBody positive xs ys) :
    Text.trimBlank (String.ofList (mark positive ++ xs ++ '.' :: ys)) =
        String.ofList (mark positive ++ xs ++ '.' :: ys) ∧
      RuleFilter.isRuleLine (String.ofList (mark positive ++ xs ++ '.' :: ys)) = true := by
  obtain ⟨c, cs, hcs⟩ : ∃ c cs, xs ++ '.' :: ys = c :: cs := by
    cases xs with
    | nil => exact ⟨_, _, rfl⟩
    | cons x xs => exact ⟨_, _, rfl⟩
  obtain ⟨hblank, hmarks⟩ := h.head c (by rw [hcs]; rfl)
  have hlast : ∀ d ∈ (mark positive ++ xs ++ '.' :: ys).getLast?, Text.isBlank d = false := by
    intro d hd
    rw [List.append_assoc, List.getLast?_append_of_ne_nil _ (by simp [hcs])] at hd
    exact h.last d hd
  have hbangBlank : Text.isBlank '!' = false := Text.lowerSimple_dot_bang.2.2.2
  cases positive with
  | false =>
    refine ⟨?_, by simp [RuleFilter.isRuleLine, mark]⟩
    rw [Text.trimBlank, String.toList_ofList,
      Text.trimBlankChars_eq_self (by simpa [mark] using hbangBlank) hlast]
  | true =>
    have hhash : c ≠ '#' := (hmarks rfl).2
    refine ⟨?_, ?_⟩
    · rw [Text.trimBlank, String.toList_ofList,
        Text.trimBlankChars_eq_self (by simpa [mark, hcs] using hblank) hlast]
    · simp [RuleFilter.isRuleLine, mark, hcs, Ne.symm hhash]

theorem line_lowercase_toLine {r : FilterRule} (h : r.Printable) :
    Text.trimBlank (Text.lowercase r.toLine) = Text.lowercase r.toLine ∧
      RuleFilter.isRuleLine (Text.lowercase r.toLine) = true := by
  rw [← String.ofList_toList (s := Text.lowercase r.toLine), toList_lowercase_toLine]
  exact line_of_readableBody (readableBody_folded h)

/-- A read of two parts succeeds exactly when both compile, with the rule they make. -/
theorem read_eq_ok_iff {positive : Bool} {s t : String} {r : FilterRule} :
    (do return ⟨positive, ← Wildcard.compile s false, ← Wildcard.compile t false⟩ :
      Except RuleFault FilterRule) = .ok r ↔
      r.positive = positive ∧ Wildcard.compile s false = .ok r.schema ∧
        Wildcard.compile t false = .ok r.table := by
  constructor
  · intro h
    obtain ⟨hpos, hs, ht, hws, hwt⟩ := compile_of_read h
    exact ⟨hpos, hs ▸ hws, ht ▸ hwt⟩
  · rintro ⟨hpos, hs, ht⟩
    rw [hs, ht, ← hpos]
    rfl

end FilterRule

namespace RuleFilter

/-- Every rule of a list read from lines came from a trimmed rule line. -/
theorem printable_of_parse {lines : List String} {f : RuleFilter} (h : parse lines = .ok f) :
    ∀ r ∈ f.rules, r.Printable := by
  unfold parse at h
  obtain ⟨rs, hrs, rfl⟩ := except_map_eq_ok.mp h
  intro r hr
  obtain ⟨line, hline, hparse⟩ := exists_of_mapM_eq_ok hrs r hr
  obtain ⟨hmem, hrule⟩ := List.mem_filter.mp hline
  obtain ⟨raw, -, rfl⟩ := List.mem_map.mp hmem
  exact FilterRule.printable_of_parse (Text.trimBlank_trimBlank raw) hrule hparse

/-- Ignoring case reads each rule again from its lowercased line: the rule with its patterns
lowercased in place. -/
theorem foldCase_eq {f : RuleFilter} (h : ∀ r ∈ f.rules, r.Printable) :
    f.foldCase = RuleFilter.mk <$> f.rules.mapM fun r =>
      (do return ⟨r.positive, ← Wildcard.compile r.foldedSchema false,
        ← Wildcard.compile r.foldedTable false⟩) := by
  unfold foldCase parse
  -- every lowercased line is trimmed and a rule line, so all of them are read
  have hlines : ((f.rules.map fun r => Text.lowercase r.toLine).map Text.trimBlank).filter
      isRuleLine = f.rules.map fun r => Text.lowercase r.toLine := by
    rw [List.map_map]
    have htrim : (f.rules.map (Text.trimBlank ∘ fun r => Text.lowercase r.toLine)) =
        f.rules.map fun r => Text.lowercase r.toLine :=
      List.map_congr_left fun r hr => (FilterRule.line_lowercase_toLine (h r hr)).1
    rw [htrim, List.filter_eq_self]
    intro line hline
    obtain ⟨r, hr, rfl⟩ := List.mem_map.mp hline
    exact (FilterRule.line_lowercase_toLine (h r hr)).2
  rw [hlines, List.mapM_map, Function.comp_def,
    mapM_congr_mem fun r hr => FilterRule.parse_lowercase_toLine (h r hr)]

end RuleFilter

/-- A rule list read from lines prints each rule as a line that reads back as the rule.
Ignoring case reads the printed lines again, lowercased whole: this succeeds exactly when
every pattern, lowercased as it stands in its line, compiles, and then gives the rules in
their order and polarity with those lowercased patterns. A filter that ignores case decides
a name by the last of these rules that matches the name lowercased. -/
theorem RuleFilter.foldCase_reads_rules_in_context {lines : List String} {f : RuleFilter}
    (h : RuleFilter.parse lines = .ok f) :
    (∀ r ∈ f.rules, FilterRule.parse r.toLine = .ok r) ∧
    (∀ f', f.foldCase = .ok f' ↔ List.Forall₂ (fun r r' => r'.positive = r.positive ∧
      Wildcard.compile r.foldedSchema false = .ok r'.schema ∧
      Wildcard.compile r.foldedTable false = .ok r'.table) f.rules f'.rules) ∧
    ((∃ f', f.foldCase = .ok f') ↔ ∀ r ∈ f.rules,
      (∃ w, Wildcard.compile r.foldedSchema false = .ok w) ∧
      ∃ w, Wildcard.compile r.foldedTable false = .ok w) ∧
    ∀ nf, NameFilter.caseInsensitive (.rules f) = .ok nf → ∃ f', f.foldCase = .ok f' ∧
      nf.form = .rules f' ∧ ∀ s t,
        nf.matchTable s t = f'.matchTable (Text.lowercase s) (Text.lowercase t) ∧
        nf.matchSchema s = f'.matchSchema (Text.lowercase s) := by
  have hprint := RuleFilter.printable_of_parse h
  have hfold := RuleFilter.foldCase_eq hprint
  -- a folded filter is a list of rules each read from its rule
  have hiff : ∀ f', f.foldCase = .ok f' ↔ List.Forall₂ (fun r r' => r'.positive = r.positive ∧
      Wildcard.compile r.foldedSchema false = .ok r'.schema ∧
      Wildcard.compile r.foldedTable false = .ok r'.table) f.rules f'.rules := by
    intro f'
    rw [hfold, except_map_eq_ok]
    constructor
    · rintro ⟨rs, hrs, rfl⟩
      exact (mapM_eq_ok_iff_forall₂.mp hrs).imp fun _ _ h => FilterRule.read_eq_ok_iff.mp h
    · intro hall
      exact ⟨f'.rules, mapM_eq_ok_iff_forall₂.mpr
        (hall.imp fun _ _ h => FilterRule.read_eq_ok_iff.mpr h), rfl⟩
  refine ⟨fun r hr => FilterRule.parse_toLine (hprint r hr), hiff, ?_, ?_⟩
  · constructor
    · rintro ⟨f', hf'⟩
      intro r hr
      obtain ⟨r', hr'⟩ := exists_forall₂_iff.mp ⟨_, (hiff f').mp hf'⟩ r hr
      exact ⟨⟨_, hr'.2.1⟩, ⟨_, hr'.2.2⟩⟩
    · intro hall
      obtain ⟨rs, hrs⟩ : ∃ rs, List.Forall₂ (fun r (r' : FilterRule) => r'.positive = r.positive ∧
          Wildcard.compile r.foldedSchema false = .ok r'.schema ∧
          Wildcard.compile r.foldedTable false = .ok r'.table) f.rules rs :=
        exists_forall₂_iff.mpr fun r hr => by
          obtain ⟨⟨ws, hws⟩, ⟨wt, hwt⟩⟩ := hall r hr
          exact ⟨⟨r.positive, ws, wt⟩, rfl, hws, hwt⟩
      exact ⟨⟨rs⟩, (hiff ⟨rs⟩).mpr hrs⟩
  · intro nf hnf
    unfold NameFilter.caseInsensitive FilterForm.foldCase at hnf
    obtain ⟨form, hform, hnf⟩ := except_bind_eq_ok.mp hnf
    obtain ⟨f', hf', rfl⟩ := except_map_eq_ok.mp hform
    rw [except_pure_eq_ok] at hnf
    subst hnf
    exact ⟨f', hf', rfl, fun _ _ => ⟨rfl, rfl⟩⟩

/-- The rule lists `Shop.Orders` and `AΣ.B` of the two examples below, read, folded and
matched, in one evaluation. -/
theorem RuleFilter.foldCase_examples_evaluated :
    (RuleFilter.parse ["Shop.Orders"]).toOption.map (fun f =>
        (f.foldCase.toOption.map fun f' =>
          f'.matchTable (Text.lowercase "SHOP") (Text.lowercase "orders")) == some true) =
        some true ∧
    (RuleFilter.parse ["AΣ.B"]).toOption.map (fun f =>
        ((NameFilter.caseInsensitive (.rules f)).toOption.map fun nf =>
          !nf.matchTable "AΣ" "B" && !nf.matchSchema "AΣ") == some true &&
        ((RuleFilter.parse (f.rules.map fun r => (if r.positive then "" else "!") ++
          Text.lowercase r.schema.source ++ "." ++ Text.lowercase r.table.source)).toOption.map
            fun g => g.matchTable (Text.lowercase "AΣ") (Text.lowercase "B") &&
              g.matchSchema (Text.lowercase "AΣ")) == some true) = some true := by
  decide +kernel

/-- The rule `Shop.Orders` prints as a line that reads back as itself, and ignoring case it
reads as `shop.orders`, which keeps the table `SHOP.orders`. -/
theorem RuleFilter.foldCase_reads_rules_in_context_of_shop_orders :
    ∃ f, RuleFilter.parse ["Shop.Orders"] = .ok f ∧
      (∀ r ∈ f.rules, FilterRule.parse r.toLine = .ok r) ∧
      ∃ nf, NameFilter.caseInsensitive (.rules f) = .ok nf ∧ nf.matchTable "SHOP" "orders" = true := by
  obtain ⟨f, hf, he⟩ := exists_ok_of_toOption_map RuleFilter.foldCase_examples_evaluated.1
  obtain ⟨hline, -, -, hmatch⟩ := RuleFilter.foldCase_reads_rules_in_context hf
  simp only [beq_iff_eq] at he
  obtain ⟨f', hf', hm⟩ := exists_ok_of_toOption_map he
  have hnf : NameFilter.caseInsensitive (.rules f) = .ok ⟨.rules f', true⟩ := by
    simp [NameFilter.caseInsensitive, FilterForm.foldCase, hf']
  obtain ⟨f'', hf'', -, hdecide⟩ := hmatch _ hnf
  have hsame : f'' = f' := Except.ok.inj (hf''.symm.trans hf')
  subst hsame
  exact ⟨f, hf, hline, _, hnf, (hdecide "SHOP" "orders").1.trans hm⟩

/-- The rule `AΣ.B`, ignoring case, keeps neither the table `AΣ.B` nor the schema `AΣ`,
although the rule with each pattern lowercased on its own keeps both names lowercased. -/
theorem RuleFilter.caseInsensitive_misses_final_sigma :
    ∃ f nf g, RuleFilter.parse ["AΣ.B"] = .ok f ∧
      NameFilter.caseInsensitive (.rules f) = .ok nf ∧
      RuleFilter.parse (f.rules.map fun r => (if r.positive then "" else "!") ++
        Text.lowercase r.schema.source ++ "." ++ Text.lowercase r.table.source) = .ok g ∧
      nf.matchTable "AΣ" "B" = false ∧ nf.matchSchema "AΣ" = false ∧
      g.matchTable (Text.lowercase "AΣ") (Text.lowercase "B") = true ∧
      g.matchSchema (Text.lowercase "AΣ") = true := by
  obtain ⟨f, hf, he⟩ := exists_ok_of_toOption_map RuleFilter.foldCase_examples_evaluated.2
  simp only [Bool.and_eq_true, beq_iff_eq] at he
  obtain ⟨h₁, h₂⟩ := he
  obtain ⟨nf, hnf, hn⟩ := exists_ok_of_toOption_map h₁
  obtain ⟨g, hg, hgm⟩ := exists_ok_of_toOption_map h₂
  simp only [Bool.and_eq_true, Bool.not_eq_true'] at hn hgm
  exact ⟨f, nf, g, hf, hnf, hg, hn.1, hn.2, hgm.1, hgm.2⟩

end DumpTopology
