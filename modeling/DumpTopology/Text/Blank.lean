import DumpTopology.Text.CodeSet

/-!
# Blank characters

The characters with the Unicode White_Space property (Unicode 15.0): the ASCII
blanks, the next line, no-break and ideographic spaces, the line and paragraph
separators. Trimming a line and the `\s` class of patterns both use this set.
-/
namespace DumpTopology.Text

set_option maxRecDepth 20000 in
/-- The White_Space property as range boundaries. -/
def blankSet : CodeSet := ⟨#[
  0x9, 0xE, 0x20, 0x21, 0x85, 0x86, 0xA0, 0xA1, 0x1680, 0x1681, 0x2000, 0x200B, 0x2028, 0x202A,
  0x202F, 0x2030, 0x205F, 0x2060, 0x3000, 0x3001]⟩

/-- A character with the White_Space property. -/
def isBlank (c : Char) : Bool := blankSet.contains c

/-- Drops blank characters at both ends. -/
def trimBlankChars (cs : List Char) : List Char :=
  ((cs.dropWhile isBlank).reverse.dropWhile isBlank).reverse

/-- The text without blank characters at either end. -/
def trimBlank (s : String) : String := String.ofList (trimBlankChars s.toList)

example : isBlank ' ' ∧ isBlank '\u3000' ∧ isBlank '\x85' ∧ !isBlank 'a' ∧ !isBlank '\u200B' := by
  decide +kernel

end DumpTopology.Text
