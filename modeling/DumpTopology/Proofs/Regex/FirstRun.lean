import DumpTopology.Proofs.Regex.Compile

/-!
# The run the search prefers

From a pair of state and position the search tries the moves in the order of preference of
the choices, a split's first successor before its second, and stops at the first run that
accepts. `FirstRun q res` is the outcome of that order without the search's marks: the
records of the first accepting run from `q`, in the order they are made, or `none` when no
run from `q` accepts. The slots the search reports are those records applied in turn
(`applySaves`).

A run that came back to a pair without reading a character would make the order infinite.
Where a ranking of states drops with every move in place (`EmptyRanked`), no run does:
every pair then has exactly one outcome (`FirstRun.unique`, `FirstRun.exists_of_ranked`),
and the outcome accepts exactly when the pair does (`FirstRun.isSome_iff`).
-/
namespace DumpTopology.Regex

/-- Records capture positions in the order they were made; a later record of a slot
replaces an earlier one. -/
def applySaves (saves : List (Nat × Nat)) (slots : Slots) : Slots :=
  saves.foldl (fun acc w => acc.setIfInBounds w.1 (some w.2)) slots

@[simp] theorem applySaves_nil (slots : Slots) : applySaves [] slots = slots := rfl

@[simp] theorem applySaves_cons (w : Nat × Nat) (saves : List (Nat × Nat)) (slots : Slots) :
    applySaves (w :: saves) slots = applySaves saves (slots.setIfInBounds w.1 (some w.2)) := rfl

/-- The outcome of trying the runs from a pair in order of preference: the records of the
first one that accepts, or `none` when none does. -/
inductive FirstRun (steps : Array Step) (text : Array Char) :
    Nat × Nat → Option (List (Nat × Nat)) → Prop
  | accept {s pos : Nat} : steps[s]? = some .accept → FirstRun steps text (s, pos) (some [])
  | outside {s pos : Nat} : steps[s]? = none → FirstRun steps text (s, pos) none
  | chars {s pos next : Nat} {set : Text.CodeSet} {c : Char} {res : Option (List (Nat × Nat))} :
      steps[s]? = some (.chars set next) → text[pos]? = some c → set.contains c = true →
      FirstRun steps text (next, pos + 1) res → FirstRun steps text (s, pos) res
  | charsFail {s pos next : Nat} {set : Text.CodeSet} :
      steps[s]? = some (.chars set next) → (∀ c, text[pos]? = some c → set.contains c = false) →
      FirstRun steps text (s, pos) none
  | splitFirst {s pos a b : Nat} {L : List (Nat × Nat)} :
      steps[s]? = some (.split a b) → FirstRun steps text (a, pos) (some L) →
      FirstRun steps text (s, pos) (some L)
  | splitSecond {s pos a b : Nat} {res : Option (List (Nat × Nat))} :
      steps[s]? = some (.split a b) → FirstRun steps text (a, pos) none →
      FirstRun steps text (b, pos) res → FirstRun steps text (s, pos) res
  | look {s pos next : Nat} {l : Look} {res : Option (List (Nat × Nat))} :
      steps[s]? = some (.look l next) → l.holds text pos = true →
      FirstRun steps text (next, pos) res → FirstRun steps text (s, pos) res
  | lookFail {s pos next : Nat} {l : Look} :
      steps[s]? = some (.look l next) → l.holds text pos = false → FirstRun steps text (s, pos) none
  | save {s pos slot next : Nat} {res : Option (List (Nat × Nat))} :
      steps[s]? = some (.save slot next) → FirstRun steps text (next, pos) res →
      FirstRun steps text (s, pos) (res.map ((slot, pos) :: ·))

section Outcome

variable {steps : Array Step} {text : Array Char}

/-- A pair has at most one outcome: the order of preference decides every choice. -/
theorem FirstRun.unique {q : Nat × Nat} {r₁ r₂ : Option (List (Nat × Nat))}
    (h₁ : FirstRun steps text q r₁) (h₂ : FirstRun steps text q r₂) : r₁ = r₂ := by
  induction h₁ generalizing r₂ with
  | accept hs => cases h₂ <;> simp_all
  | outside hs => cases h₂ <;> simp_all
  | chars hs hc hin _ ih =>
    cases h₂ with
    | chars hs' hc' hin' h' =>
      rw [hs] at hs'
      cases hs'
      exact ih h'
    | charsFail hs' hfail =>
      rw [hs] at hs'
      cases hs'
      simp [hfail _ hc] at hin
    | _ => simp_all
  | charsFail hs hfail =>
    cases h₂ with
    | chars hs' hc' hin' =>
      rw [hs] at hs'
      cases hs'
      simp [hfail _ hc'] at hin'
    | _ => simp_all
  | splitFirst hs _ ih =>
    cases h₂ with
    | splitFirst hs' h' =>
      rw [hs] at hs'
      cases hs'
      exact ih h'
    | splitSecond hs' h' =>
      rw [hs] at hs'
      cases hs'
      cases ih h'
    | _ => simp_all
  | splitSecond hs _ _ iha ihb =>
    cases h₂ with
    | splitFirst hs' h' =>
      rw [hs] at hs'
      cases hs'
      cases iha h'
    | splitSecond hs' _ h' =>
      rw [hs] at hs'
      cases hs'
      exact ihb h'
    | _ => simp_all
  | look hs hl _ ih =>
    cases h₂ with
    | look hs' _ h' =>
      rw [hs] at hs'
      cases hs'
      exact ih h'
    | lookFail hs' hl' =>
      rw [hs] at hs'
      cases hs'
      simp [hl] at hl'
    | _ => simp_all
  | lookFail hs hl =>
    cases h₂ with
    | look hs' hl' =>
      rw [hs] at hs'
      cases hs'
      simp [hl] at hl'
    | _ => simp_all
  | save hs _ ih =>
    cases h₂ with
    | save hs' h' =>
      rw [hs] at hs'
      cases hs'
      rw [ih h']
    | _ => simp_all

/-- A pair accepts exactly when its state accepts or some move leads to a pair that
accepts. -/
theorem accepts_iff_successors {q : Nat × Nat} :
    Accepts steps text q ↔ Accepting steps q ∨ ∃ r ∈ successors steps text q, Accepts steps text r := by
  constructor
  · rintro ⟨n, hn⟩
    cases hn with
    | accept hacc => exact .inl hacc
    | move hr hrest => exact .inr ⟨_, hr, _, hrest⟩
  · rintro (hacc | ⟨r, hr, hacc⟩)
    · exact ⟨0, .accept hacc⟩
    · exact hacc.of_successor hr

theorem not_accepts_of_successors_eq_nil {q : Nat × Nat} (hq : ¬ Accepting steps q)
    (h : successors steps text q = []) : ¬ Accepts steps text q := by
  rw [accepts_iff_successors, h]
  simp [hq]

theorem accepts_iff_of_successors_eq {q r : Nat × Nat} (hq : ¬ Accepting steps q)
    (h : successors steps text q = [r]) : Accepts steps text q ↔ Accepts steps text r := by
  rw [accepts_iff_successors, h]
  simp [hq]

theorem accepts_iff_of_split {s pos a b : Nat} (hs : steps[s]? = some (.split a b)) :
    Accepts steps text (s, pos) ↔ Accepts steps text (a, pos) ∨ Accepts steps text (b, pos) := by
  rw [accepts_iff_successors]
  simp [Accepting, hs, successors]

/-- The outcome of a pair is a run exactly when the pair accepts. -/
theorem FirstRun.isSome_iff {q : Nat × Nat} {res : Option (List (Nat × Nat))}
    (h : FirstRun steps text q res) : res.isSome = true ↔ Accepts steps text q := by
  induction h with
  | accept hs => exact iff_of_true rfl ⟨0, .accept hs⟩
  | outside hs =>
    exact iff_of_false (by simp) (not_accepts_of_successors_eq_nil (by simp [Accepting, hs])
      (successors_of_none hs))
  | chars hs hc hin _ ih =>
    rw [ih]
    exact (accepts_iff_of_successors_eq (by simp [Accepting, hs])
      (by simp [successors, hs, hc, hin])).symm
  | @charsFail s pos next set hs hfail =>
    refine iff_of_false (by simp) (not_accepts_of_successors_eq_nil (by simp [Accepting, hs]) ?_)
    rcases hc : text[pos]? with _ | c
    · simp [successors, hs, hc]
    · simp [successors, hs, hc, hfail c hc]
  | splitFirst hs _ ih =>
    exact iff_of_true rfl ((accepts_iff_of_split hs).mpr (.inl (ih.mp rfl)))
  | splitSecond hs _ _ iha ihb =>
    rw [ihb, accepts_iff_of_split hs]
    have ha : ¬ Accepts steps text (_, _) := fun hacc => by simpa using iha.mpr hacc
    exact ⟨.inr, fun hab => hab.resolve_left ha⟩
  | look hs hl _ ih =>
    rw [ih]
    exact (accepts_iff_of_successors_eq (by simp [Accepting, hs])
      (by simp [successors, hs, hl])).symm
  | lookFail hs hl =>
    exact iff_of_false (by simp) (not_accepts_of_successors_eq_nil (by simp [Accepting, hs])
      (by simp [successors, hs, hl]))
  | save hs _ ih =>
    rw [Option.isSome_map, ih]
    exact (accepts_iff_of_successors_eq (by simp [Accepting, hs]) (by simp [successors, hs])).symm

end Outcome

/-! ## Runs that always read -/

/-- A ranking of states that every move in place lowers: a split's successors, an
assertion's and a record's successor rank below the state. -/
def EmptyRanked (steps : Array Step) (rank : Nat → Nat) : Prop :=
  ∀ s, match steps[s]? with
    | some (Step.split a b) => rank a < rank s ∧ rank b < rank s
    | some (Step.look _ next) => rank next < rank s
    | some (Step.save _ next) => rank next < rank s
    | _ => True

section Ranked

variable {steps : Array Step} {text : Array Char} {rank : Nat → Nat}

/-- A move reads a character, or keeps the position and lowers the rank. -/
theorem successor_cases (hrank : EmptyRanked steps rank) {q r : Nat × Nat}
    (hr : r ∈ successors steps text q) : r.2 = q.2 + 1 ∨ (r.2 = q.2 ∧ rank r.1 < rank q.1) := by
  obtain ⟨s, pos⟩ := q
  have hs := hrank s
  rcases hstep : steps[s]? with _ | ⟨set, next⟩ | ⟨a, b⟩ | ⟨l, next⟩ | ⟨slot, next⟩ | _ <;>
    rw [hstep] at hs
  · simp [successors, hstep] at hr
  · obtain ⟨-, -, -, rfl⟩ := (mem_successors_chars hstep).mp hr
    exact .inl rfl
  · rcases (mem_successors_split hstep).mp hr with rfl | rfl
    · exact .inr ⟨rfl, hs.1⟩
    · exact .inr ⟨rfl, hs.2⟩
  · obtain ⟨-, rfl⟩ := (mem_successors_look hstep).mp hr
    exact .inr ⟨rfl, hs⟩
  · rw [(mem_successors_save hstep).mp hr]
    exact .inr ⟨rfl, hs⟩
  · simp [successors, hstep] at hr

/-- Along a run the position never drops, and a run that ends at the position it started from
lowers the rank, unless it made no move. -/
theorem Reach.le_rank (hrank : EmptyRanked steps rank) {q r : Nat × Nat}
    (h : Reach steps text q r) : q.2 ≤ r.2 ∧ (r.2 = q.2 → r = q ∨ rank r.1 < rank q.1) := by
  induction h with
  | refl => exact ⟨Nat.le_refl _, fun _ => .inl rfl⟩
  | tail _ hmove ih =>
    obtain ⟨hle, hsame⟩ := ih
    rcases successor_cases hrank hmove with hstep | ⟨hstep, hlt⟩
    · exact ⟨by omega, fun h => by omega⟩
    · refine ⟨by omega, fun h => .inr ?_⟩
      rcases hsame (by omega) with rfl | hlt'
      · exact hlt
      · exact Nat.lt_trans hlt hlt'

/-- No run of moves leads from a pair back to it. -/
theorem not_reach_of_successor (hrank : EmptyRanked steps rank) {q r : Nat × Nat}
    (hr : r ∈ successors steps text q) : ¬ Reach steps text r q := by
  intro h
  obtain ⟨hle, hsame⟩ := h.le_rank hrank
  rcases successor_cases hrank hr with hstep | ⟨hstep, hlt⟩
  · omega
  · rcases hsame (by omega) with rfl | hlt'
    · exact Nat.lt_irrefl _ hlt
    · exact Nat.lt_asymm hlt hlt'

/-- Every pair has an outcome when the ranking holds. The recursion is on the characters left
to read, then on the rank. -/
theorem FirstRun.exists_of_ranked (hrank : EmptyRanked steps rank) :
    ∀ q : Nat × Nat, ∃ res, FirstRun steps text q res
  | (s, pos) => by
    rcases hstep : steps[s]? with _ | ⟨set, next⟩ | ⟨a, b⟩ | ⟨l, next⟩ | ⟨slot, next⟩ | _
    · exact ⟨none, .outside hstep⟩
    · rcases hc : text[pos]? with _ | c
      · exact ⟨none, .charsFail hstep (by simp [hc])⟩
      · by_cases hin : set.contains c = true
        · have hlt : pos < text.size := (Array.getElem?_eq_some_iff.mp hc).1
          obtain ⟨res, h⟩ := FirstRun.exists_of_ranked hrank (next, pos + 1)
          exact ⟨res, .chars hstep hc hin h⟩
        · refine ⟨none, .charsFail hstep fun c' hc' => ?_⟩
          rw [hc] at hc'
          cases hc'
          simpa using hin
    · have hlt : rank a < rank s ∧ rank b < rank s := by
        have := hrank s
        rwa [hstep] at this
      obtain ⟨ra, ha⟩ := FirstRun.exists_of_ranked hrank (a, pos)
      cases ra with
      | some L => exact ⟨some L, .splitFirst hstep ha⟩
      | none =>
        obtain ⟨rb, hb⟩ := FirstRun.exists_of_ranked hrank (b, pos)
        exact ⟨rb, .splitSecond hstep ha hb⟩
    · have hlt : rank next < rank s := by
        have := hrank s
        rwa [hstep] at this
      by_cases hl : l.holds text pos = true
      · obtain ⟨res, h⟩ := FirstRun.exists_of_ranked hrank (next, pos)
        exact ⟨res, .look hstep hl h⟩
      · exact ⟨none, .lookFail hstep (by simpa using hl)⟩
    · have hlt : rank next < rank s := by
        have := hrank s
        rwa [hstep] at this
      obtain ⟨res, h⟩ := FirstRun.exists_of_ranked hrank (next, pos)
      exact ⟨_, .save hstep h⟩
    · exact ⟨some [], .accept hstep⟩
termination_by q => (text.size - q.2, rank q.1)
decreasing_by
  · exact Prod.Lex.left _ _ (by omega)
  · exact Prod.Lex.right _ hlt.1
  · exact Prod.Lex.right _ hlt.2
  · exact Prod.Lex.right _ hlt
  · exact Prod.Lex.right _ hlt

end Ranked

end DumpTopology.Regex
