import DumpTopology.Proofs.Regex.FirstRun

/-!
# The search reports the preferred run

The search explores a pair at most once. Where every move in place lowers a ranking of the
states, that loses nothing: a pair is never reached again while its own exploration goes on,
since no run leads from a pair back to it, and once its exploration ends without a match the
pair does not accept. So a marked pair that the search meets again is one whose outcome is
`none`, and skipping it is what the order of preference does too.

`FirstRun.explores` follows one pair's outcome through the search: an accepting outcome ends
the search with its records applied to the slots, and no outcome hands the rest of the stack
the slots it started with and marks only on pairs that do not accept. Each mark it sets costs
at most three steps, so the fuel of the search always suffices, and the search reports the
preferred run from the first start position that has one (`Program.search_eq`).
-/
namespace DumpTopology.Regex

section Explore

variable {prog : Program} {text : Array Char} {rank : Nat → Nat}

/-! ## One step of the search -/

section Step

variable {fuel s pos : Nat} {rest : List Frame} {seen : Array Bool} {slots : Slots}

theorem explore_marked (hm : marked seen (text.size + 1) (s, pos)) :
    explore prog text (text.size + 1) (fuel + 1) (.explore s pos :: rest) seen slots =
      explore prog text (text.size + 1) fuel rest seen slots := by
  have hm' : seen[s * (text.size + 1) + pos]?.getD true = true := hm
  rw [explore, if_pos hm']

variable (hfresh : seen[s * (text.size + 1) + pos]? = some false)
include hfresh

theorem explore_fresh_accept (hs : prog.steps[s]? = some .accept) :
    explore prog text (text.size + 1) (fuel + 1) (.explore s pos :: rest) seen slots =
      (some slots, seen.setIfInBounds (s * (text.size + 1) + pos) true) := by
  rw [explore]
  simp [hfresh, hs]

theorem explore_fresh_stop (hs : successors prog.steps text (s, pos) = [])
    (hacc : prog.steps[s]? ≠ some .accept) :
    explore prog text (text.size + 1) (fuel + 1) (.explore s pos :: rest) seen slots =
      explore prog text (text.size + 1) fuel rest
        (seen.setIfInBounds (s * (text.size + 1) + pos) true) slots := by
  rw [explore]
  simp only [hfresh, Option.getD_some, Bool.false_eq_true, if_false]
  rcases hstep : prog.steps[s]? with _ | ⟨set, next⟩ | ⟨a, b⟩ | ⟨l, next⟩ | ⟨slot, next⟩ | _
  · rfl
  · rcases hc : text[pos]? with _ | c
    · rfl
    · cases hin : set.contains c
      · simp [hin]
      · simp [successors, hstep, hc, hin] at hs
  · simp [successors, hstep] at hs
  · cases hl : l.holds text pos
    · simp [hl]
    · simp [successors, hstep, hl] at hs
  · simp [successors, hstep] at hs
  · exact absurd hstep hacc

theorem explore_fresh_chars {set : Text.CodeSet} {next : Nat} {c : Char}
    (hs : prog.steps[s]? = some (.chars set next)) (hc : text[pos]? = some c)
    (hin : set.contains c = true) :
    explore prog text (text.size + 1) (fuel + 1) (.explore s pos :: rest) seen slots =
      explore prog text (text.size + 1) fuel (.explore next (pos + 1) :: rest)
        (seen.setIfInBounds (s * (text.size + 1) + pos) true) slots := by
  rw [explore]
  simp [hfresh, hs, hc, hin]

theorem explore_fresh_split {a b : Nat} (hs : prog.steps[s]? = some (.split a b)) :
    explore prog text (text.size + 1) (fuel + 1) (.explore s pos :: rest) seen slots =
      explore prog text (text.size + 1) fuel (.explore a pos :: .explore b pos :: rest)
        (seen.setIfInBounds (s * (text.size + 1) + pos) true) slots := by
  rw [explore]
  simp [hfresh, hs]

theorem explore_fresh_look {l : Look} {next : Nat} (hs : prog.steps[s]? = some (.look l next))
    (hl : l.holds text pos = true) :
    explore prog text (text.size + 1) (fuel + 1) (.explore s pos :: rest) seen slots =
      explore prog text (text.size + 1) fuel (.explore next pos :: rest)
        (seen.setIfInBounds (s * (text.size + 1) + pos) true) slots := by
  rw [explore]
  simp [hfresh, hs, hl]

theorem explore_fresh_save {slot next : Nat} (hs : prog.steps[s]? = some (.save slot next)) :
    explore prog text (text.size + 1) (fuel + 1) (.explore s pos :: rest) seen slots =
      explore prog text (text.size + 1) fuel
        (.explore next pos :: .restore slot (slots[slot]?.join) :: rest)
        (seen.setIfInBounds (s * (text.size + 1) + pos) true)
        (slots.setIfInBounds slot (some pos)) := by
  rw [explore]
  simp [hfresh, hs]

end Step

/-- Restoring a slot after recording in it gives the slots back. -/
theorem setIfInBounds_restore (slots : Slots) (slot pos : Nat) :
    (slots.setIfInBounds slot (some pos)).setIfInBounds slot (slots[slot]?.join) = slots := by
  rw [Array.setIfInBounds_setIfInBounds]
  by_cases h : slot < slots.size
  · rw [Array.getElem?_eq_getElem h, Option.join_some, Array.setIfInBounds_def, dif_pos h,
      Array.set_getElem_self]
  · exact Array.setIfInBounds_eq_of_size_le (by omega)

/-! ## Marks that only skip failures -/

/-- No marked pair that `q` leads to accepts. -/
def DeadAhead (steps : Array Step) (text : Array Char) (seen : Array Bool) (q : Nat × Nat) :
    Prop :=
  ∀ r, Reach steps text q r → marked seen (text.size + 1) r → ¬ Accepts steps text r

/-- The marks of `seen'` are those of `seen` and some pairs that `q` leads to and that do not
accept. -/
def MarksAfter (steps : Array Step) (text : Array Char) (q : Nat × Nat)
    (seen seen' : Array Bool) : Prop :=
  ∀ r, r.2 ≤ text.size → marked seen' (text.size + 1) r →
    marked seen (text.size + 1) r ∨ (Reach steps text q r ∧ ¬ Accepts steps text r)

theorem Reach.snd_le {q r : Nat × Nat} (h : Reach prog.steps text q r) (hq : q.2 ≤ text.size) :
    r.2 ≤ text.size := by
  induction h with
  | refl => exact hq
  | tail _ hmove ih => exact snd_le_of_mem_successors hmove ih

section Marks

variable {seen seen₁ seen₂ : Array Bool} {q t : Nat × Nat}

/-- Marking a pair keeps the invariant for each pair it moves to: no run leads back to it. -/
theorem DeadAhead.mark (hrank : EmptyRanked prog.steps rank)
    (hinv : DeadAhead prog.steps text seen q) (hq : q.2 ≤ text.size)
    (ht : t ∈ successors prog.steps text q) :
    DeadAhead prog.steps text (seen.setIfInBounds (q.1 * (text.size + 1) + q.2) true) t := by
  intro r hr hm
  have hrq : r.2 ≤ text.size := hr.snd_le (snd_le_of_mem_successors ht hq)
  rcases marked_of_marked_setIfInBounds hm (by omega) (by omega) with hm | heq
  · exact hinv r (Reach.head ht hr) hm
  · rw [show r = q from heq] at hr
    exact absurd hr (not_reach_of_successor hrank ht)

/-- After a failed exploration, the invariant of a pair still waiting holds of the new marks. -/
theorem DeadAhead.after (hinv : DeadAhead prog.steps text seen₁ t)
    (hafter : MarksAfter prog.steps text q seen₁ seen₂) (ht : t.2 ≤ text.size) :
    DeadAhead prog.steps text seen₂ t := by
  intro r hr hm
  rcases hafter r (hr.snd_le ht) hm with hm | ⟨-, hdead⟩
  · exact hinv r hr hm
  · exact hdead

theorem MarksAfter.refl : MarksAfter prog.steps text q seen seen :=
  fun _ _ hm => .inl hm

/-- Marking a pair that does not accept. -/
theorem MarksAfter.mark (hq : q.2 ≤ text.size) (hdead : ¬ Accepts prog.steps text q) :
    MarksAfter prog.steps text q seen (seen.setIfInBounds (q.1 * (text.size + 1) + q.2) true) := by
  intro r hr hm
  rcases marked_of_marked_setIfInBounds hm (by omega) (by omega) with hm | heq
  · exact .inl hm
  · rw [show r = q from heq]
    exact .inr ⟨.refl, hdead⟩

theorem MarksAfter.trans (h₁ : MarksAfter prog.steps text q seen seen₁)
    (h₂ : MarksAfter prog.steps text t seen₁ seen₂) (ht : Reach prog.steps text q t) :
    MarksAfter prog.steps text q seen seen₂ := by
  intro r hr hm
  rcases h₂ r hr hm with hm | ⟨hreach, hdead⟩
  · exact h₁ r hr hm
  · exact .inr ⟨ht.trans hreach, hdead⟩

end Marks

/-! ## One pair's outcome through the search -/

/-- What exploring the pair `q` does to a search with marks `seen` and slots `slots`, when the
preferred run from `q` has outcome `res`. An accepting outcome ends the search with its
records applied to the slots. No outcome hands the rest of the stack the same slots, with
marks added only on pairs that do not accept. Either way the search takes at most three
steps for each mark it sets, and one more. -/
def Explores (prog : Program) (text : Array Char) (q : Nat × Nat) (seen : Array Bool)
    (slots : Slots) : Option (List (Nat × Nat)) → Prop
  | some L => ∃ k ≤ 3 * seen.count false + 1, ∀ fuel rest,
      (explore prog text (text.size + 1) (fuel + k) (.explore q.1 q.2 :: rest) seen slots).1 =
        some (applySaves L slots)
  | none => ∃ k seen', k + 3 * seen'.count false ≤ 3 * seen.count false + 1 ∧
      MarksAfter prog.steps text q seen seen' ∧ ∀ fuel rest,
        explore prog text (text.size + 1) (fuel + k) (.explore q.1 q.2 :: rest) seen slots =
          explore prog text (text.size + 1) fuel rest seen' slots

section Explores

variable {seen : Array Bool} {slots : Slots} {q : Nat × Nat} {res : Option (List (Nat × Nat))}

/-- A marked pair that does not accept is skipped in one step. -/
theorem explores_of_marked (hm : marked seen (text.size + 1) q)
    (h : FirstRun prog.steps text q res) (hdead : ¬ Accepts prog.steps text q) :
    Explores prog text q seen slots res := by
  have hres : res = none := by
    cases hres : res with
    | none => rfl
    | some L => exact absurd ((h.isSome_iff).mp (by simp [hres])) hdead
  subst hres
  exact ⟨1, seen, by omega, MarksAfter.refl, fun fuel rest => explore_marked hm⟩

/-- A fresh pair whose exploration moves on to one pair `t`, with the same slots, has the
outcome of `t`. -/
theorem Explores.of_step {t : Nat × Nat} (hfresh : seen[q.1 * (text.size + 1) + q.2]? = some false)
    (hq : q.2 ≤ text.size) (ht : t ∈ successors prog.steps text q)
    (hstep : ∀ fuel rest, explore prog text (text.size + 1) (fuel + 1) (.explore q.1 q.2 :: rest)
      seen slots = explore prog text (text.size + 1) fuel (.explore t.1 t.2 :: rest)
        (seen.setIfInBounds (q.1 * (text.size + 1) + q.2) true) slots)
    (hdead : res = none → ¬ Accepts prog.steps text q)
    (ht' : Explores prog text t (seen.setIfInBounds (q.1 * (text.size + 1) + q.2) true) slots res) :
    Explores prog text q seen slots res := by
  have hcount := count_setIfInBounds_fresh hfresh
  cases res with
  | some L =>
    obtain ⟨k, hk, hrun⟩ := ht'
    exact ⟨k + 1, by omega, fun fuel rest => (congrArg Prod.fst (hstep (fuel + k) rest)).trans
      (hrun fuel rest)⟩
  | none =>
    obtain ⟨k, seen', hk, hafter, hrun⟩ := ht'
    exact ⟨k + 1, seen', by omega,
      (MarksAfter.mark hq (hdead rfl)).trans hafter (Reach.single ht),
      fun fuel rest => (hstep (fuel + k) rest).trans (hrun fuel rest)⟩

/-- A pair the search meets is either marked, and then skipped as a failure, or fresh: its
outcome follows from the fresh case. -/
theorem Explores.of_fresh (h : FirstRun prog.steps text q res)
    (hinv : DeadAhead prog.steps text seen q)
    (hfresh : seen[q.1 * (text.size + 1) + q.2]? = some false →
      Explores prog text q seen slots res) :
    Explores prog text q seen slots res := by
  by_cases hm : marked seen (text.size + 1) q
  · exact explores_of_marked hm h (hinv _ .refl hm)
  · exact hfresh (getElem?_eq_false_of_getD hm)

/-- A fresh pair that neither accepts nor moves fails in one step, marking itself. -/
theorem Explores.stop {s pos : Nat} (hfresh : seen[s * (text.size + 1) + pos]? = some false)
    (hq : pos ≤ text.size) (hnone : successors prog.steps text (s, pos) = [])
    (hacc : prog.steps[s]? ≠ some .accept) :
    Explores prog text (s, pos) seen slots none := by
  have hcount := count_setIfInBounds_fresh hfresh
  have hdead : ¬ Accepts prog.steps text (s, pos) := not_accepts_of_successors_eq_nil hacc hnone
  exact ⟨1, seen.setIfInBounds (s * (text.size + 1) + pos) true, by omega,
    MarksAfter.mark hq hdead, fun fuel rest => explore_fresh_stop hfresh hnone hacc⟩

/-- The search follows the preferred run of a pair: it finds the run's records when there is
one, and otherwise goes on with the rest of the stack. The induction is on the preferred
run; the invariant is that no marked pair ahead accepts. -/
theorem FirstRun.explores (hrank : EmptyRanked prog.steps rank)
    (h : FirstRun prog.steps text q res) :
    q.2 ≤ text.size → ∀ seen slots, DeadAhead prog.steps text seen q →
      Explores prog text q seen slots res := by
  induction h with
  | @accept s pos hs =>
    intro hq seen slots hinv
    refine Explores.of_fresh (.accept hs) hinv fun hfresh => ⟨1, by omega, fun fuel rest => ?_⟩
    rw [explore_fresh_accept hfresh hs]
    rfl
  | @outside s pos hs =>
    intro hq seen slots hinv
    exact Explores.of_fresh (.outside hs) hinv fun hfresh =>
      Explores.stop hfresh hq (successors_of_none hs) (by simp [hs])
  | @chars s pos next set c res hs hc hin hrest ih =>
    intro hq seen slots hinv
    refine Explores.of_fresh (.chars hs hc hin hrest) hinv fun hfresh => ?_
    have hlt : pos < text.size := (Array.getElem?_eq_some_iff.mp hc).1
    have ht : (next, pos + 1) ∈ successors prog.steps text (s, pos) :=
      (mem_successors_chars hs).mpr ⟨c, hc, hin, rfl⟩
    exact Explores.of_step hfresh hq ht (fun _ _ => explore_fresh_chars hfresh hs hc hin)
      (fun hres => by simpa [hres] using (FirstRun.chars hs hc hin hrest).isSome_iff)
      (ih hlt _ slots (hinv.mark hrank hq ht))
  | @charsFail s pos next set hs hfail =>
    intro hq seen slots hinv
    refine Explores.of_fresh (.charsFail hs hfail) hinv fun hfresh => ?_
    have hnone : successors prog.steps text (s, pos) = [] := by
      rcases hc : text[pos]? with _ | c
      · simp [successors, hs, hc]
      · simp [successors, hs, hc, hfail c hc]
    exact Explores.stop hfresh hq hnone (by simp [hs])
  | @splitFirst s pos a b L hs ha iha =>
    intro hq seen slots hinv
    refine Explores.of_fresh (.splitFirst hs ha) hinv fun hfresh => ?_
    have hcount := count_setIfInBounds_fresh hfresh
    have hta : (a, pos) ∈ successors prog.steps text (s, pos) := (mem_successors_split hs).mpr (.inl rfl)
    obtain ⟨k, hk, hrun⟩ := iha hq _ slots (hinv.mark hrank hq hta)
    refine ⟨k + 1, by omega, fun fuel rest => ?_⟩
    rw [show fuel + (k + 1) = fuel + k + 1 from rfl, explore_fresh_split hfresh hs]
    exact hrun fuel _
  | @splitSecond s pos a b res hs ha hb iha ihb =>
    intro hq seen slots hinv
    refine Explores.of_fresh (.splitSecond hs ha hb) hinv fun hfresh => ?_
    have hcount := count_setIfInBounds_fresh hfresh
    have hta : (a, pos) ∈ successors prog.steps text (s, pos) := (mem_successors_split hs).mpr (.inl rfl)
    have htb : (b, pos) ∈ successors prog.steps text (s, pos) := (mem_successors_split hs).mpr (.inr rfl)
    -- the first successor fails, leaving the same slots and marks only on failures
    obtain ⟨ka, seenA, hka, hafterA, hrunA⟩ := iha hq _ slots (hinv.mark hrank hq hta)
    have hinvB := (hinv.mark hrank hq htb).after hafterA hq
    have hstep : ∀ fuel rest, explore prog text (text.size + 1) (fuel + (ka + 1))
        (.explore s pos :: rest) seen slots =
          explore prog text (text.size + 1) fuel (.explore b pos :: rest) seenA slots := by
      intro fuel rest
      rw [show fuel + (ka + 1) = fuel + ka + 1 from rfl, explore_fresh_split hfresh hs]
      exact hrunA fuel _
    cases res with
    | some L =>
      obtain ⟨kb, hkb, hrunB⟩ := ihb hq seenA slots hinvB
      refine ⟨kb + (ka + 1), by omega, fun fuel rest => ?_⟩
      rw [← Nat.add_assoc, hstep]
      exact hrunB fuel rest
    | none =>
      obtain ⟨kb, seenB, hkb, hafterB, hrunB⟩ := ihb hq seenA slots hinvB
      have hdead := (FirstRun.splitSecond hs ha hb).isSome_iff
      refine ⟨kb + (ka + 1), seenB, by omega, ?_, fun fuel rest => ?_⟩
      · exact ((MarksAfter.mark hq (by simpa using hdead)).trans hafterA (Reach.single hta)).trans
          hafterB (Reach.single htb)
      · rw [← Nat.add_assoc, hstep]
        exact hrunB fuel rest
  | @look s pos next l res hs hl hrest ih =>
    intro hq seen slots hinv
    refine Explores.of_fresh (.look hs hl hrest) hinv fun hfresh => ?_
    have ht : (next, pos) ∈ successors prog.steps text (s, pos) :=
      (mem_successors_look hs).mpr ⟨hl, rfl⟩
    exact Explores.of_step hfresh hq ht (fun _ _ => explore_fresh_look hfresh hs hl)
      (fun hres => by simpa [hres] using (FirstRun.look hs hl hrest).isSome_iff)
      (ih hq _ slots (hinv.mark hrank hq ht))
  | @lookFail s pos next l hs hl =>
    intro hq seen slots hinv
    exact Explores.of_fresh (.lookFail hs hl) hinv fun hfresh =>
      Explores.stop hfresh hq (by simp [successors, hs, hl]) (by simp [hs])
  | @save s pos slot next res hs hrest ih =>
    intro hq seen slots hinv
    refine Explores.of_fresh (.save hs hrest) hinv fun hfresh => ?_
    have hcount := count_setIfInBounds_fresh hfresh
    have ht : (next, pos) ∈ successors prog.steps text (s, pos) := (mem_successors_save hs).mpr rfl
    have ih' := ih hq _ (slots.setIfInBounds slot (some pos)) (hinv.mark hrank hq ht)
    cases res with
    | some L =>
      obtain ⟨k, hk, hrun⟩ := ih'
      refine ⟨k + 1, by omega, fun fuel rest => ?_⟩
      rw [show fuel + (k + 1) = fuel + k + 1 from rfl, explore_fresh_save hfresh hs]
      exact hrun fuel _
    | none =>
      obtain ⟨k, seen', hk, hafter, hrun⟩ := ih'
      have hdead := (FirstRun.save hs hrest).isSome_iff
      -- after the run from the successor fails, the restore frame gives the slot back
      refine ⟨1 + k + 1, seen', by omega,
        (MarksAfter.mark hq (by simpa using hdead)).trans hafter (Reach.single ht),
        fun fuel rest => ?_⟩
      rw [show fuel + (1 + k + 1) = fuel + 1 + k + 1 by omega, explore_fresh_save hfresh hs,
        hrun, explore, setIfInBounds_restore]

/-- Alone on the stack, with three steps for each unmarked pair and two more, a pair's
exploration ends in its outcome: the records applied to the slots, or no match with marks
added only on pairs that do not accept. -/
theorem Explores.alone (budget : Nat) (hbudget : 3 * seen.count false + 2 ≤ budget)
    (h : Explores prog text q seen slots res) :
    ∃ seen', explore prog text (text.size + 1) budget [.explore q.1 q.2] seen slots =
        (res.map (applySaves · slots), seen') ∧
      (res = none → MarksAfter prog.steps text q seen seen') := by
  cases res with
  | some L =>
    obtain ⟨k, hk, hrun⟩ := h
    have hend := hrun (budget - k) []
    rw [show budget - k + k = budget by omega] at hend
    exact ⟨_, Prod.ext hend rfl, nofun⟩
  | none =>
    obtain ⟨k, seen', hk, hafter, hrun⟩ := h
    have hend := hrun (budget - k) []
    rw [show budget - k + k = budget by omega] at hend
    -- what is left of the budget runs on an empty stack
    refine ⟨seen', hend.trans ?_, fun _ => hafter⟩
    cases budget - k <;> rfl

end Explores

/-! ## The whole search -/

/-- The outcome of trying the start positions from `start` on: the preferred run from the
first start position that has one. -/
inductive FirstFrom (prog : Program) (text : Array Char) :
    Nat → Option (List (Nat × Nat)) → Prop
  | past {start : Nat} : text.size < start → FirstFrom prog text start none
  | found {start : Nat} {L : List (Nat × Nat)} : start ≤ text.size →
      FirstRun prog.steps text (prog.start, start) (some L) → FirstFrom prog text start (some L)
  | next {start : Nat} {res : Option (List (Nat × Nat))} : start ≤ text.size →
      FirstRun prog.steps text (prog.start, start) none → FirstFrom prog text (start + 1) res →
      FirstFrom prog text start res

/-- Trying the start positions from `start` on reports the preferred run of the first start
that has one. The marks carried between starts are on pairs that do not accept, so each start
begins with the invariant. -/
theorem searchStarts_eq (hrank : EmptyRanked prog.steps rank) :
    ∀ n start (seen : Array Bool) res, start + n = text.size + 1 →
      seen.size = prog.steps.size * (text.size + 1) →
      (∀ r : Nat × Nat, r.2 ≤ text.size → marked seen (text.size + 1) r →
        ¬ Accepts prog.steps text r) →
      FirstFrom prog text start res →
      searchStarts prog text (3 * (prog.steps.size * (text.size + 1)) + 2) n start seen =
        res.map fun L => applySaves L (Array.replicate prog.slots none) := by
  intro n
  induction n with
  | zero =>
    intro start seen res hn _ _ hfirst
    cases hfirst with
    | past => rfl
    | found hle => omega
    | next hle => omega
  | succ n ih =>
    intro start seen res hn hsize hdead hfirst
    have hcount : seen.count false ≤ prog.steps.size * (text.size + 1) :=
      hsize ▸ Array.count_le_size
    have hinv : DeadAhead prog.steps text seen (prog.start, start) :=
      fun r hr hm => hdead r (hr.snd_le (by simp only; omega)) hm
    rw [searchStarts]
    cases hfirst with
    | past hlt => omega
    | found hle hrun =>
      obtain ⟨seen', hexp, -⟩ :=
        (hrun.explores hrank hle seen (Array.replicate prog.slots none) hinv).alone
          (3 * (prog.steps.size * (text.size + 1)) + 2) (by omega)
      rw [hexp]
      rfl
    | next hle hrun hrest =>
      obtain ⟨seen', hexp, hafter⟩ :=
        (hrun.explores hrank hle seen (Array.replicate prog.slots none) hinv).alone
          (3 * (prog.steps.size * (text.size + 1)) + 2) (by omega)
      rw [hexp]
      have hsize' : seen'.size = prog.steps.size * (text.size + 1) := by
        rw [← hsize, ← size_explore hexp]
      refine ih (start + 1) seen' _ (by omega) hsize' (fun r hr hm => ?_) hrest
      rcases hafter rfl r hr hm with hm | ⟨-, hdead'⟩
      · exact hdead r hr hm
      · exact hdead'

/-- Where every move in place lowers a ranking of the states, the search reports the
preferred run from the first start position that has one, its records applied to empty
slots. -/
theorem Program.search_eq (hrank : EmptyRanked prog.steps rank) {res : Option (List (Nat × Nat))}
    (h : FirstFrom prog text 0 res) :
    prog.search text = res.map fun L => applySaves L (Array.replicate prog.slots none) := by
  unfold Program.search
  refine searchStarts_eq hrank _ 0 _ res (by omega) (by simp) (fun r hr hm => ?_) h
  rintro ⟨n, hn⟩
  exact closed_replicate.not_acceptsWithin hr hm hn

/-- Every start position has an outcome where the ranking holds. -/
theorem FirstFrom.exists_of_ranked (hrank : EmptyRanked prog.steps rank) (start : Nat) :
    ∃ res, FirstFrom prog text start res := by
  induction h : text.size + 1 - start generalizing start with
  | zero => exact ⟨none, .past (by omega)⟩
  | succ n ih =>
    obtain ⟨r, hr⟩ : ∃ r, FirstRun prog.steps text (prog.start, start) r :=
      FirstRun.exists_of_ranked hrank _
    cases r with
    | some L => exact ⟨some L, .found (by omega) hr⟩
    | none =>
      obtain ⟨res, hres⟩ := ih (start + 1) (by omega)
      exact ⟨res, .next (by omega) hr hres⟩

end Explore

end DumpTopology.Regex
