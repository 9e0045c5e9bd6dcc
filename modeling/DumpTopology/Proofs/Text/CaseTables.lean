import DumpTopology.Text.Lower
import DumpTopology.Text.Blank

/-!
# Characters the case tables leave alone

The characters that shape a line of text, the dot, `!`, `#` and blanks, are not the lowercase
form of any entry of `lowerPairs`, nor a letter of the special cases of `lowerAt`, and the
dot and `!` have no entry of their own. The facts are checked against the tables once, by the
kernel, here beside the tables, so that the proofs which use them evaluate no table.
-/

namespace DumpTopology.Text

/-- A character lowercases to itself or to a code point of the table. -/
theorem lowerSimple_eq_or_mem (c : Char) :
    lowerSimple c = c ∨ ∃ l ∈ lowerPairs.toList, lowerSimple c = Char.ofNat l := by
  unfold lowerSimple
  split
  · next l hl =>
    unfold pairLookup at hl
    dsimp only at hl
    split at hl
    · exact .inr ⟨l, Array.mem_def.mp (Array.mem_of_getElem? hl), rfl⟩
    · cases hl
  · exact .inl rfl

/-- What lowercasing needs in order to keep the marks of a line, checked against the tables
in one evaluation: no code point of the table is a dot, a mark of negation or of comment, or
a blank; no letter of the special cases is blank; and the dot and `!` lowercase to themselves
and are not blank. -/
theorem lowerTables_spare_marks :
    lowerPairs.toList.all (fun l => !(Char.ofNat l == '.' || Char.ofNat l == '!' ||
        Char.ofNat l == '#' || isBlank (Char.ofNat l))) = true ∧
      (isBlank 'i' = false ∧ isBlank '̇' = false ∧ isBlank 'ς' = false ∧ isBlank 'σ' = false) ∧
      (lowerSimple '.' = '.' ∧ lowerSimple '!' = '!' ∧ isBlank '.' = false ∧
        isBlank '!' = false) := by
  decide +kernel

/-- The dot and the mark of negation lowercase to themselves and are not blank. -/
theorem lowerSimple_dot_bang :
    lowerSimple '.' = '.' ∧ lowerSimple '!' = '!' ∧ isBlank '.' = false ∧ isBlank '!' = false :=
  lowerTables_spare_marks.2.2

end DumpTopology.Text
