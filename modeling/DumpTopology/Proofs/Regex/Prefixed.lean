import DumpTopology.Proofs.Regex.FirstRun

/-!
# Reading past a prefix

Two facts about runs over a text that begins with something else.

States that lead only among themselves and test no position but the end of the text
(`EndAnchoredBelow`) read a text the same way wherever it starts: from `pre ++ text` at
`pre.size + i` they have the outcome they have from `text` at `i`, its records moved by
`pre.size` (`FirstRun.shift`), and they accept there exactly where they accept in `text`
(`accepts_append_iff`).

A set of states that reads only characters of some kind, leaves only by testing for the end
of the text and never accepts is a trap (`Traps`): over a stretch of such characters, ending
before the end of the text at a character the set does not read, no run from it accepts
(`not_accepts_of_traps`).
-/
namespace DumpTopology.Regex

/-! ## Outcomes after a prefix -/

/-- Whether a state leads only to states up to `bound` and tests no position but the end. -/
def Step.anchoredBelow (bound : Nat) : Option Step → Bool
  | some (.chars _ next) => decide (next ≤ bound)
  | some (.split a b) => decide (a ≤ bound) && decide (b ≤ bound)
  | some (.look l next) => decide (l = .textEnd) && decide (next ≤ bound)
  | some (.save _ next) => decide (next ≤ bound)
  | _ => true

/-- The states up to `bound` lead only among themselves and test no position but the end of
the text. -/
def EndAnchoredBelow (steps : Array Step) (bound : Nat) : Prop :=
  ∀ s ≤ bound, Step.anchoredBelow bound steps[s]? = true

/-- Records moved along by `n` positions. -/
def shiftSaves (n : Nat) (saves : List (Nat × Nat)) : List (Nat × Nat) :=
  saves.map fun w => (w.1, n + w.2)

section Shift

variable {steps : Array Step} {text : Array Char} {bound : Nat}

theorem getElem?_append_size (pre : Array Char) (i : Nat) :
    (pre ++ text)[pre.size + i]? = text[i]? := by
  rw [Array.getElem?_append_right (by omega), Nat.add_sub_cancel_left]

theorem holds_textEnd_append (pre : Array Char) (i : Nat) :
    Look.textEnd.holds (pre ++ text) (pre.size + i) = Look.textEnd.holds text i := by
  simp only [Look.holds, Array.size_append]
  exact Bool.eq_iff_iff.mpr (by simp)

/-- States below the bound have, after a prefix, the outcome they have without it, their
records moved by the prefix's length. -/
theorem FirstRun.shift (hb : EndAnchoredBelow steps bound) (pre : Array Char)
    {q : Nat × Nat} {res : Option (List (Nat × Nat))} (h : FirstRun steps text q res) :
    q.1 ≤ bound → FirstRun steps (pre ++ text) (q.1, pre.size + q.2) (res.map (shiftSaves pre.size)) := by
  induction h with
  | accept hs => exact fun _ => .accept hs
  | outside hs => exact fun _ => .outside hs
  | @chars s pos next set c res hs hc hin _ ih =>
    intro hq
    have hnext : next ≤ bound := by simpa [Step.anchoredBelow, hs] using hb s hq
    exact .chars hs (by rw [getElem?_append_size, hc]) hin (ih hnext)
  | @charsFail s pos next set hs hfail =>
    intro _
    exact .charsFail hs fun c hc => hfail c (by rwa [getElem?_append_size] at hc)
  | @splitFirst s pos a b L hs _ ih =>
    intro hq
    have hab : a ≤ bound ∧ b ≤ bound := by simpa [Step.anchoredBelow, hs] using hb s hq
    exact .splitFirst hs (ih hab.1)
  | @splitSecond s pos a b res hs _ _ iha ihb =>
    intro hq
    have hab : a ≤ bound ∧ b ≤ bound := by simpa [Step.anchoredBelow, hs] using hb s hq
    exact .splitSecond hs (iha hab.1) (ihb hab.2)
  | @look s pos next l res hs hl _ ih =>
    intro hq
    have hend : l = .textEnd ∧ next ≤ bound := by simpa [Step.anchoredBelow, hs] using hb s hq
    obtain ⟨rfl, hnext⟩ := hend
    exact .look hs (by rwa [holds_textEnd_append]) (ih hnext)
  | @lookFail s pos next l hs hl =>
    intro hq
    have hend : l = .textEnd ∧ next ≤ bound := by simpa [Step.anchoredBelow, hs] using hb s hq
    obtain ⟨rfl, -⟩ := hend
    exact .lookFail hs (by rwa [holds_textEnd_append])
  | @save s pos slot next res hs _ ih =>
    intro hq
    have hnext : next ≤ bound := by simpa [Step.anchoredBelow, hs] using hb s hq
    have hmap : (res.map ((slot, pos) :: ·)).map (shiftSaves pre.size) =
        (res.map (shiftSaves pre.size)).map ((slot, pre.size + pos) :: ·) := by
      cases res <;> rfl
    rw [hmap]
    exact .save hs (ih hnext)

/-- States below the bound accept after a prefix exactly where they accept without it. -/
theorem accepts_append_iff {rank : Nat → Nat} (hrank : EmptyRanked steps rank)
    (hb : EndAnchoredBelow steps bound) {s : Nat} (hs : s ≤ bound) (pre : Array Char) (i : Nat) :
    Accepts steps (pre ++ text) (s, pre.size + i) ↔ Accepts steps text (s, i) := by
  obtain ⟨res, h⟩ : ∃ res, FirstRun steps text (s, i) res := FirstRun.exists_of_ranked hrank _
  rw [← h.isSome_iff, ← (h.shift hb pre hs).isSome_iff, Option.isSome_map]

end Shift

/-! ## Traps -/

/-- A set of states that, reading only characters of `stay`, stays in the set, leaves it only
by testing for the end of the text, and holds no accepting state. -/
def Traps (steps : Array Step) (W : Nat → Prop) (stay : Char → Prop) : Prop :=
  ∀ s, W s → match steps[s]? with
    | some Step.accept => False
    | some (Step.chars set next) => ∀ c, stay c → set.contains c = true → W next
    | some (Step.split a b) => W a ∧ W b
    | some (Step.look l next) => l = .textEnd ∨ W next
    | some (Step.save _ next) => W next
    | none => True

/-- No run from a trap accepts over a stretch of characters it stays on, up to a character
before the end of the text that the trap does not read. The induction is on the length of
the run. -/
theorem not_accepts_of_traps {steps : Array Step} {text : Array Char} {W : Nat → Prop}
    {stay : Char → Prop} (hW : Traps steps W stay) {e : Nat} {stop : Char}
    (he : text[e]? = some stop)
    (hstop : ∀ s set next, W s → steps[s]? = some (.chars set next) → set.contains stop = false)
    {j : Nat} (hstay : ∀ k, j ≤ k → k < e → ∃ c, text[k]? = some c ∧ stay c)
    {s : Nat} (hs : W s) (hj : j ≤ e) : ¬ Accepts steps text (s, j) := by
  have hlt : e < text.size := (Array.getElem?_eq_some_iff.mp he).1
  rintro ⟨n, hn⟩
  induction n generalizing s j with
  | zero =>
    cases hn with
    | accept hacc =>
      have := hW s hs
      rw [show steps[s]? = some .accept from hacc] at this
      exact this
  | succ n ih =>
    cases hn with
    | accept hacc =>
      have := hW s hs
      rw [show steps[s]? = some .accept from hacc] at this
      exact this
    | move hr hrest =>
      have hstep := hW s hs
      rcases hst : steps[s]? with _ | ⟨set, next⟩ | ⟨a, b⟩ | ⟨l, next⟩ | ⟨slot, next⟩ | _ <;>
        rw [hst] at hstep
      · simp [successors, hst] at hr
      · obtain ⟨c, hc, hin, rfl⟩ := (mem_successors_chars hst).mp hr
        -- a character read inside the stretch keeps the run in the trap
        rcases Nat.lt_or_ge j e with hje | hje
        · obtain ⟨c', hc', hstay'⟩ := hstay j (Nat.le_refl _) hje
          rw [hc] at hc'
          cases hc'
          exact ih (fun k hk hke => hstay k (by omega) hke) (hstep c hstay' hin) hje hrest
        · obtain rfl : j = e := by omega
          rw [he] at hc
          cases hc
          simp [hstop s set next hs hst] at hin
      · rcases (mem_successors_split hst).mp hr with rfl | rfl
        · exact ih hstay hstep.1 hj hrest
        · exact ih hstay hstep.2 hj hrest
      · obtain ⟨hl, rfl⟩ := (mem_successors_look hst).mp hr
        rcases hstep with rfl | hnext
        · -- the end of the text lies past the stretch
          simp [Look.holds] at hl
          omega
        · exact ih hstay hnext hj hrest
      · rw [(mem_successors_save hst).mp hr] at hrest
        exact ih hstay hstep hj hrest
      · exact hstep.elim

end DumpTopology.Regex
