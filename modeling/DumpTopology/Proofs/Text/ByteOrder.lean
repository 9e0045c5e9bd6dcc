import DumpTopology.Text.Utf8
import Mathlib.Tactic.SplitIfs

/-!
# Texts compare as their UTF-8 bytes

Texts are ordered character by character, by code point. UTF-8 is built so that this is
also the order of the encodings byte by byte: a longer encoding starts with a larger lead
byte, and encodings of one length spell the code point in base 64 from the top. So two
texts compare exactly as their bytes do (`encodeUtf8_lt_iff`), and sorting by text is
sorting by bytes.
-/
namespace DumpTopology.Text

theorem toNat_lt_of_char (c : Char) : c.toNat < 0x110000 := by
  have h := c.valid
  simp only [UInt32.isValidChar, Nat.isValidChar] at h
  show c.val.toNat < 0x110000
  omega

theorem encodeChar_ne_nil (c : Char) : encodeChar c ≠ [] := by
  unfold encodeChar
  dsimp only
  split_ifs <;> simp

/-- The encoding of a smaller character is below the encoding of a larger one, whatever
follows each: they differ at a byte of both encodings, and there the smaller character
has the smaller byte. -/
theorem encodeChar_append_lt {c d : Char} (h : c < d) (xs ys : List UInt8) :
    encodeChar c ++ xs < encodeChar d ++ ys := by
  have hlt : c.toNat < d.toNat := h
  have hd := toNat_lt_of_char d
  unfold encodeChar
  dsimp only
  generalize c.toNat = n at *
  generalize d.toNat = m at *
  -- each pair of lengths: the bytes are within range, so compare them as numbers
  split_ifs <;>
    simp only [List.cons_append, List.nil_append, List.cons_lt_cons_iff, UInt8.lt_iff_toNat_lt,
      ← UInt8.toNat_inj, Nat.toUInt8_eq, UInt8.toNat_ofNat', Nat.reducePow] <;>
    simp (disch := omega) only [Nat.mod_eq_of_lt] <;> omega

theorem append_lt_append_left_iff (p xs ys : List UInt8) : p ++ xs < p ++ ys ↔ xs < ys := by
  induction p with
  | nil => rfl
  | cons b p ih => simpa using ih

/-- Lists of characters compare as their encodings. -/
theorem flatMap_encodeChar_lt_iff (l m : List Char) :
    l.flatMap encodeChar < m.flatMap encodeChar ↔ l < m := by
  induction l generalizing m with
  | nil =>
    cases m with
    | nil => simp
    | cons d m =>
      obtain ⟨b, bs, hb⟩ := List.exists_cons_of_ne_nil (encodeChar_ne_nil d)
      simp [hb]
  | cons c l ih =>
    cases m with
    | nil => simp
    | cons d m =>
      simp only [List.flatMap_cons, List.cons_lt_cons_iff]
      by_cases hcd : c < d
      · exact iff_of_true (encodeChar_append_lt hcd _ _) (.inl hcd)
      by_cases hdc : d < c
      · have hne : c ≠ d := fun he => hcd (he ▸ hdc)
        exact iff_of_false (List.lt_asymm (encodeChar_append_lt hdc _ _))
          (by simp [hcd, hne])
      -- neither is smaller, so they are the same character and the rest decides
      have hcd' : c = d := Char.le_antisymm (Char.not_lt.mp hdc) (Char.not_lt.mp hcd)
      subst hcd'
      rw [append_lt_append_left_iff, ih]
      simp only [Char.lt_irrefl, true_and, false_or]

/-- Two texts compare as their UTF-8 bytes. -/
theorem encodeUtf8_lt_iff (s t : String) : encodeUtf8 s < encodeUtf8 t ↔ s < t :=
  flatMap_encodeChar_lt_iff s.toList t.toList

theorem encodeUtf8_le_iff (s t : String) : encodeUtf8 s ≤ encodeUtf8 t ↔ s ≤ t :=
  not_congr (encodeUtf8_lt_iff t s)

end DumpTopology.Text
