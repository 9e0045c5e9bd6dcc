import DumpTopology.Wildcard

/-!
# The wildcard `*` accepts every name

The search explores pairs of state and position depth first, each pair once; one equation
per kind of state says what exploring a fresh pair does (`explore_split` and the others).

The wildcard `*` compiles, whether it ignores case or not, to an automaton of seven states
(`compile_star`): record the start, assert the start of the text, then loop between
consuming any byte and leaving, assert the end of the text, record the end and accept.
From the start position the search runs the loop to the end of the text, where no byte is
left, leaves it there and accepts (`explore_starProgram`). So the search succeeds on every
text of bytes, and `*` accepts every name (`accepts_of_compile_star`).
-/
namespace DumpTopology

namespace Regex

/-! ## One search step per state -/

section Explore

variable {prog : Program} {text : Array Char} {width fuel s pos : Nat} {rest : List Frame}
  {seen : Array Bool} {slots : Slots}

theorem explore_split {a b : Nat} (hs : prog.steps[s]? = some (.split a b))
    (hu : seen[s * width + pos]? = some false) :
    explore prog text width (fuel + 1) (.explore s pos :: rest) seen slots =
      explore prog text width fuel (.explore a pos :: .explore b pos :: rest)
        (seen.setIfInBounds (s * width + pos) true) slots := by
  simp [explore, hs, hu]

theorem explore_chars_of_some {set : Text.CodeSet} {next : Nat} {c : Char}
    (hs : prog.steps[s]? = some (.chars set next)) (hu : seen[s * width + pos]? = some false)
    (hc : text[pos]? = some c) (hin : set.contains c = true) :
    explore prog text width (fuel + 1) (.explore s pos :: rest) seen slots =
      explore prog text width fuel (.explore next (pos + 1) :: rest)
        (seen.setIfInBounds (s * width + pos) true) slots := by
  simp [explore, hs, hu, hc, hin]

theorem explore_chars_of_none {set : Text.CodeSet} {next : Nat}
    (hs : prog.steps[s]? = some (.chars set next)) (hu : seen[s * width + pos]? = some false)
    (hc : text[pos]? = none) :
    explore prog text width (fuel + 1) (.explore s pos :: rest) seen slots =
      explore prog text width fuel rest (seen.setIfInBounds (s * width + pos) true) slots := by
  simp [explore, hs, hu, hc]

theorem explore_look {l : Look} {next : Nat} (hs : prog.steps[s]? = some (.look l next))
    (hu : seen[s * width + pos]? = some false) (hl : l.holds text pos = true) :
    explore prog text width (fuel + 1) (.explore s pos :: rest) seen slots =
      explore prog text width fuel (.explore next pos :: rest)
        (seen.setIfInBounds (s * width + pos) true) slots := by
  simp [explore, hs, hu, hl]

theorem explore_save {slot next : Nat} (hs : prog.steps[s]? = some (.save slot next))
    (hu : seen[s * width + pos]? = some false) :
    explore prog text width (fuel + 1) (.explore s pos :: rest) seen slots =
      explore prog text width fuel
        (.explore next pos :: .restore slot (slots[slot]?.join) :: rest)
        (seen.setIfInBounds (s * width + pos) true) (slots.setIfInBounds slot (some pos)) := by
  simp [explore, hs, hu]

theorem explore_accept (hs : prog.steps[s]? = some .accept)
    (hu : seen[s * width + pos]? = some false) :
    explore prog text width (fuel + 1) (.explore s pos :: rest) seen slots =
      (some slots, seen.setIfInBounds (s * width + pos) true) := by
  simp [explore, hs, hu]

end Explore

end Regex

namespace Wildcard

open Regex

/-! ## The automaton of `*` -/

/-- The automaton of `*`: record the start, assert the start of the text, loop between
any byte and the exit, assert the end of the text, record the end, accept. -/
def starProgram : Program :=
  ⟨#[.accept, .save 1 0, .look .textEnd 1, .split 4 2, .chars ⟨#[0, 256]⟩ 3,
    .look .textStart 3, .save 0 5], 6, 2, []⟩

theorem anyByte_eq : anyByte = .chars ⟨[(0, 255)]⟩ := by
  simp [anyByte, CharClass.canonical, CharClass.insertDesc, CharClass.pushRange]

theorem compile_star (caseless : Bool) : compile "*" caseless = .ok ⟨"*", starProgram⟩ := by
  have hglob : parseGlob "*" = .ok [.zeroOrMore] := rfl
  have hnode : wildcardNode caseless [.zeroOrMore] =
      .seq [.look .textStart, .rep 0 none true anyByte, .look .textEnd] := by
    cases caseless <;> rfl
  rw [compile, hglob]
  dsimp only
  rw [hnode, anyByte_eq]
  rfl

/-- The byte class of `*` holds every byte. -/
theorem containsCode_anyByte {k : Nat} (hk : k < 256) :
    (⟨#[0, 256]⟩ : Text.CodeSet).containsCode k = true := by
  -- the search for the boundaries at most `k` halves twice
  have h₀ : Text.CodeSet.countAtMost #[0, 256] k 1 1 = 1 := by
    rw [Text.CodeSet.countAtMost]
    simp
  have h₁ : Text.CodeSet.countAtMost #[0, 256] k 0 1 = 1 := by
    rw [Text.CodeSet.countAtMost]
    simp [h₀]
  have h₂ : Text.CodeSet.countAtMost #[0, 256] k 0 2 = 1 := by
    rw [Text.CodeSet.countAtMost]
    simp [h₁]
    omega
  simp [Text.CodeSet.containsCode, h₂]

/-- The marks that the search of `*` from position `i` still needs unexplored: the loop
states at `i` and after, and the states after the loop at the end of the text. -/
def StarUnseen (text : Array Char) (seen : Array Bool) (i : Nat) : Prop :=
  (∀ j, i ≤ j → j ≤ text.size → seen[3 * (text.size + 1) + j]? = some false ∧
    seen[4 * (text.size + 1) + j]? = some false) ∧
  seen[2 * (text.size + 1) + text.size]? = some false ∧
  seen[1 * (text.size + 1) + text.size]? = some false ∧
  seen[0 * (text.size + 1) + text.size]? = some false

/-- One round of the loop marks only the loop states at its own position. -/
theorem StarUnseen.next {text : Array Char} {seen : Array Bool} {i : Nat}
    (h : StarUnseen text seen i) (hi : i < text.size) :
    StarUnseen text ((seen.setIfInBounds (3 * (text.size + 1) + i) true).setIfInBounds
      (4 * (text.size + 1) + i) true) (i + 1) := by
  obtain ⟨hloop, h₂, h₁, h₀⟩ := h
  refine ⟨fun j hj hjn => ?_, ?_, ?_, ?_⟩
  · obtain ⟨h₃, h₄⟩ := hloop j (by omega) hjn
    simp (disch := omega) only [Array.getElem?_setIfInBounds_ne]
    exact ⟨h₃, h₄⟩
  all_goals
    simp (disch := omega) only [Array.getElem?_setIfInBounds_ne]
    assumption

/-- From the loop at position `i`, with fuel for the rounds left, the search of `*` runs the
loop to the end of a text of bytes and accepts there. The induction is on the rounds left. -/
theorem explore_starProgram (text : Array Char) (htext : ∀ c ∈ text, c.toNat < 256) :
    ∀ k i fuel rest seen slots, i + k = text.size → 2 * k + 5 ≤ fuel →
      StarUnseen text seen i →
      (explore starProgram text (text.size + 1) fuel (.explore 3 i :: rest) seen slots).1.isSome := by
  intro k
  induction k with
  | zero =>
    intro i fuel rest seen slots hi hfuel hu
    obtain ⟨f, rfl⟩ : ∃ f, fuel = f + 5 := ⟨fuel - 5, by omega⟩
    obtain ⟨hloop, h₂, h₁, h₀⟩ := hu
    simp only [Nat.add_zero] at hi
    subst hi
    obtain ⟨h₃, h₄⟩ := hloop _ (Nat.le_refl _) (Nat.le_refl _)
    -- no byte is left: leave the loop, assert the end, record it and accept
    rw [explore_split rfl h₃,
      explore_chars_of_none rfl
        (by simp (disch := omega) only [Array.getElem?_setIfInBounds_ne]; exact h₄) (by simp),
      explore_look rfl
        (by simp (disch := omega) only [Array.getElem?_setIfInBounds_ne]; exact h₂)
        (by simp [Look.holds]),
      explore_save rfl
        (by simp (disch := omega) only [Array.getElem?_setIfInBounds_ne]; exact h₁),
      explore_accept rfl
        (by simp (disch := omega) only [Array.getElem?_setIfInBounds_ne]; exact h₀)]
    rfl
  | succ k ih =>
    intro i fuel rest seen slots hi hfuel hu
    obtain ⟨f, rfl⟩ : ∃ f, fuel = f + 2 := ⟨fuel - 2, by omega⟩
    have hlt : i < text.size := by omega
    obtain ⟨h₃, h₄⟩ := hu.1 i (Nat.le_refl _) (Nat.le_of_lt hlt)
    have hc : text[i]? = some text[i] := by simp [hlt]
    -- one byte: take it and go round again
    rw [explore_split rfl h₃, explore_chars_of_some rfl
      (by simp (disch := omega) only [Array.getElem?_setIfInBounds_ne]; exact h₄) hc
      (containsCode_anyByte (htext _ (Array.getElem_mem hlt)))]
    exact ih (i + 1) f _ _ _ (by omega) (by omega) (hu.next hlt)

/-- The automaton of `*` finds a match in every text of bytes, at its first start. -/
theorem search_starProgram (text : Array Char) (htext : ∀ c ∈ text, c.toNat < 256) :
    (starProgram.search text).isSome := by
  have hfirst : (explore starProgram text (text.size + 1) (3 * (7 * (text.size + 1)) + 2)
      [.explore 6 0] (Array.replicate (7 * (text.size + 1)) false)
      (Array.replicate 2 none)).1.isSome := by
    have hfuel : 3 * (7 * (text.size + 1)) + 2 = (21 * text.size + 21) + 2 := by omega
    -- record the start and assert it, then run the loop from position 0
    rw [hfuel,
      explore_save rfl (by
        simp only [Array.getElem?_replicate]
        exact if_pos (by omega)),
      explore_look rfl (by
        simp (disch := omega) only [Array.getElem?_setIfInBounds_ne, Array.getElem?_replicate]
        exact if_pos (by omega))
        (by simp [Look.holds])]
    refine explore_starProgram text htext text.size 0 _ _ _ _ (by omega) (by omega) ?_
    refine ⟨fun j _ hj => ?_, ?_, ?_, ?_⟩
    all_goals
      simp (disch := omega) only [Array.getElem?_setIfInBounds_ne, Array.getElem?_replicate]
    · exact ⟨if_pos (by omega), if_pos (by omega)⟩
    all_goals exact if_pos (by omega)
  unfold Program.search
  rw [show starProgram.steps.size = 7 from rfl, searchStarts]
  rcases h : explore starProgram text (text.size + 1) (3 * (7 * (text.size + 1)) + 2)
      [.explore starProgram.start 0] (Array.replicate (7 * (text.size + 1)) false)
      (Array.replicate starProgram.slots none) with ⟨_ | slots, seen⟩
  · rw [show starProgram.start = 6 from rfl, show starProgram.slots = 2 from rfl] at h
    rw [h] at hfirst
    cases hfirst
  · rfl

theorem toNat_ofNat_byte (b : UInt8) : (Char.ofNat b.toNat).toNat < 256 := by
  -- a byte is a character of its own code
  have hvalid : b.toNat.isValidChar := Or.inl (Nat.lt_trans b.toNat_lt (by decide))
  have hchar : Char.ofNat b.toNat = Char.ofNatAux b.toNat hvalid := dif_pos hvalid
  rw [hchar]
  exact b.toNat_lt

/-- A wildcard compiled from `*` accepts every name. -/
theorem accepts_of_compile_star {caseless : Bool} {w : Wildcard}
    (h : compile "*" caseless = .ok w) (name : String) : w.accepts name = true := by
  rw [compile_star] at h
  cases h
  unfold accepts
  refine search_starProgram _ fun c hc => ?_
  obtain ⟨b, -, rfl⟩ := List.mem_map.mp (List.mem_toArray.mp hc)
  exact toNat_ofNat_byte b

end Wildcard

end DumpTopology
