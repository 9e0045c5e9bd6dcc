import DumpTopology.Proofs.Regex.Captures

/-!
# Computing the preferred run

The search keeps marks of the pairs it has tried, so that it takes time linear in the pairs.
The outcome it reports is the preferred run (`Program.search_eq`). That run can also be
found by trying the runs in order of preference without marks, each cut off after a number
of moves (`firstRunFuel`, `firstFromFuel`). This takes longer in the worst case. But on a
concrete text it is much cheaper to evaluate inside a proof, where every array update of the
marks costs a copy.

Whatever the cut-off decides is the outcome of `FirstRun` (`FirstRun.of_firstRunFuel`). So
where the ranking holds, a match computed this way is the match of the pattern
(`Pattern.captures_eq_of_capturesFuel`).
-/
namespace DumpTopology.Regex

/-- The outcome of the runs from a pair in order of preference, each run cut off after `fuel`
moves: `some` of the outcome, or `none` where a cut-off left it undecided. -/
def firstRunFuel (steps : Array Step) (text : Array Char) :
    Nat → Nat × Nat → Option (Option (List (Nat × Nat)))
  | 0, _ => none
  | fuel + 1, (s, pos) =>
    match steps[s]? with
    | none => some none
    | some .accept => some (some [])
    | some (.chars set next) =>
      match text[pos]? with
      | some c => if set.contains c then firstRunFuel steps text fuel (next, pos + 1) else some none
      | none => some none
    | some (.split a b) =>
      match firstRunFuel steps text fuel (a, pos) with
      | some (some L) => some (some L)
      | some none => firstRunFuel steps text fuel (b, pos)
      | none => none
    | some (.look l next) =>
      if l.holds text pos then firstRunFuel steps text fuel (next, pos) else some none
    | some (.save slot next) =>
      (firstRunFuel steps text fuel (next, pos)).map (·.map ((slot, pos) :: ·))

/-- The preferred run from the first of the given starts that has one. -/
def firstFromFuel (prog : Program) (text : Array Char) (fuel : Nat) :
    List Nat → Option (Option (List (Nat × Nat)))
  | [] => some none
  | start :: rest =>
    match firstRunFuel prog.steps text fuel (prog.start, start) with
    | some (some L) => some (some L)
    | some none => firstFromFuel prog text fuel rest
    | none => none

section Sound

variable {steps : Array Step} {text : Array Char}

/-- What the cut-off runs decide is the preferred outcome. The induction is on the fuel, one
case per kind of state. -/
theorem FirstRun.of_firstRunFuel :
    ∀ {fuel : Nat} {q : Nat × Nat} {res : Option (List (Nat × Nat))},
      firstRunFuel steps text fuel q = some res → FirstRun steps text q res
  | 0, _, _, h => by simp [firstRunFuel] at h
  | fuel + 1, (s, pos), res, h => by
    rw [firstRunFuel] at h
    rcases hs : steps[s]? with _ | ⟨set, next⟩ | ⟨a, b⟩ | ⟨l, next⟩ | ⟨slot, next⟩ | _ <;>
      simp only [hs] at h
    · cases h
      exact .outside hs
    · rcases hc : text[pos]? with _ | c <;> simp only [hc] at h
      · cases h
        exact .charsFail hs (by simp [hc])
      · by_cases hin : set.contains c = true
        · rw [if_pos hin] at h
          exact .chars hs hc hin (of_firstRunFuel h)
        · rw [if_neg hin] at h
          cases h
          refine .charsFail hs fun c' hc' => ?_
          rw [hc] at hc'
          cases hc'
          simpa using hin
    · rcases ha : firstRunFuel steps text fuel (a, pos) with _ | _ | L <;> simp only [ha] at h
      · cases h
      · exact .splitSecond hs (of_firstRunFuel ha) (of_firstRunFuel h)
      · cases h
        exact .splitFirst hs (of_firstRunFuel ha)
    · by_cases hl : l.holds text pos = true
      · rw [if_pos hl] at h
        exact .look hs hl (of_firstRunFuel h)
      · rw [if_neg hl] at h
        cases h
        exact .lookFail hs (by simpa using hl)
    · obtain ⟨r, hr, rfl⟩ := Option.map_eq_some_iff.mp h
      exact .save hs (of_firstRunFuel hr)
    · cases h
      exact .accept hs

/-- What the cut-off runs decide over the starts from `start` on is the first start's outcome. -/
theorem FirstFrom.of_firstFromFuel {prog : Program} {fuel : Nat} :
    ∀ {n start : Nat} {res : Option (List (Nat × Nat))}, start + n = text.size + 1 →
      firstFromFuel prog text fuel (List.range' start n) = some res → FirstFrom prog text start res
  | 0, start, res, hn, h => by
    simp only [List.range'_zero, firstFromFuel, Option.some.injEq] at h
    subst h
    exact .past (by omega)
  | n + 1, start, res, hn, h => by
    simp only [List.range'_succ, firstFromFuel] at h
    rcases hr : firstRunFuel prog.steps text fuel (prog.start, start) with _ | _ | L <;>
      simp only [hr] at h
    · cases h
    · exact .next (by omega) (FirstRun.of_firstRunFuel hr) (of_firstFromFuel (by omega) h)
    · cases h
      exact .found (by omega) (FirstRun.of_firstRunFuel hr)

end Sound

/-- The match of a pattern, computed by the cut-off runs. -/
def Pattern.capturesFuel (re : Pattern) (fuel : Nat) (text : String) : Option (Option Captures) :=
  let chars := text.toList.toArray
  (firstFromFuel re.program chars fuel (List.range' 0 (chars.size + 1))).map fun res =>
    res.map fun L => ⟨chars, applySaves L (Array.replicate re.program.slots none), re.program.names⟩

/-- Where the ranking holds, a match the cut-off runs decide is the match of the pattern. -/
theorem Pattern.captures_eq_of_capturesFuel {re : Pattern} {rank : Nat → Nat}
    (hrank : EmptyRanked re.program.steps rank) {fuel : Nat} {text : String}
    {v : Option Captures} (h : re.capturesFuel fuel text = some v) : re.captures text = v := by
  unfold capturesFuel at h
  obtain ⟨res, hres, rfl⟩ := Option.map_eq_some_iff.mp h
  unfold Pattern.captures
  dsimp only
  rw [Program.search_eq hrank (FirstFrom.of_firstFromFuel (by omega) hres), Option.map_map]
  rfl

end DumpTopology.Regex
