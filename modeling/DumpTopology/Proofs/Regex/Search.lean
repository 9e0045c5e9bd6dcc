import DumpTopology.Regex.Search
import Mathlib.Logic.Relation

/-!
# The search finds exactly the accepting starts

An automaton over a text moves between pairs of state and position; `successors` lists the
pairs one move leads to, in the order the search tries them. A pair accepts when some run of
moves from it reaches the accepting state (`Accepts`); `AcceptsWithin n` bounds the run to `n`
moves, which proofs about loops count down.

The search explores each pair at most once over all start positions. Its invariant (`Closed`)
is the one of every depth-first search with marks: a marked pair does not accept, and every
pair it moves to is marked too or still waits on the stack. When the stack runs empty the
marks are closed under moves, so no marked pair accepts (`Closed.not_acceptsWithin`). Each step
either pops a frame or marks one more pair and pushes at most two frames, so three times the
clear marks plus the frames bounds the steps, and the fuel of the search is never what stops
it (`explore_none`). With the easy direction, that a match is only found from a pair that
accepts (`explore_some`), this gives `search_isSome_iff`: the search finds a match exactly when
the automaton accepts from some start position.
-/
namespace DumpTopology.Regex

/-! ## Moves and acceptance -/

/-- The pairs of state and position that one move leads to from `q`, in the order the search
tries them: a character of the set moves past it, a split offers both successors, an
assertion that holds and a recorded position move on in place. -/
def successors (steps : Array Step) (text : Array Char) (q : Nat × Nat) : List (Nat × Nat) :=
  match steps[q.1]? with
  | some (.chars set next) =>
    match text[q.2]? with
    | some c => if set.contains c then [(next, q.2 + 1)] else []
    | none => []
  | some (.split a b) => [(a, q.2), (b, q.2)]
  | some (.look l next) => if l.holds text q.2 then [(next, q.2)] else []
  | some (.save _ next) => [(next, q.2)]
  | some .accept => []
  | none => []

/-- A pair whose state accepts. -/
def Accepting (steps : Array Step) (q : Nat × Nat) : Prop := steps[q.1]? = some .accept

/-- Some run of at most `n` moves from `q` reaches an accepting state. -/
inductive AcceptsWithin (steps : Array Step) (text : Array Char) : Nat → Nat × Nat → Prop
  | accept {n q} : Accepting steps q → AcceptsWithin steps text n q
  | move {n q r} : r ∈ successors steps text q → AcceptsWithin steps text n r →
      AcceptsWithin steps text (n + 1) q

/-- Some run of moves from `q` reaches an accepting state. -/
def Accepts (steps : Array Step) (text : Array Char) (q : Nat × Nat) : Prop :=
  ∃ n, AcceptsWithin steps text n q

section Moves

variable {steps : Array Step} {text : Array Char} {q r : Nat × Nat}

theorem successors_of_none (h : steps[q.1]? = none) : successors steps text q = [] := by
  simp [successors, h]

theorem snd_le_of_mem_successors (hr : r ∈ successors steps text q) (hq : q.2 ≤ text.size) :
    r.2 ≤ text.size := by
  rcases hs : steps[q.1]? with _ | ⟨set, next⟩ | ⟨a, b⟩ | ⟨l, next⟩ | ⟨slot, next⟩ | _
  · simp [successors, hs] at hr
  · -- only a character of the text moves the position, and only to its end
    rcases hc : text[q.2]? with _ | c
    · simp [successors, hs, hc] at hr
    · have hlt : q.2 < text.size := (Array.getElem?_eq_some_iff.mp hc).1
      simp only [successors, hs, hc] at hr
      split at hr
      · simp only [List.mem_singleton] at hr
        subst hr
        exact hlt
      · simp at hr
  · simp only [successors, hs, List.mem_cons, List.not_mem_nil, or_false] at hr
    rcases hr with rfl | rfl <;> exact hq
  · simp only [successors, hs] at hr
    split at hr
    · simp only [List.mem_singleton] at hr
      subst hr
      exact hq
    · simp at hr
  · simp only [successors, hs, List.mem_singleton] at hr
    subst hr
    exact hq
  · simp [successors, hs] at hr

theorem AcceptsWithin.mono {n m : Nat} (h : AcceptsWithin steps text n q) (hnm : n ≤ m) :
    AcceptsWithin steps text m q := by
  induction h generalizing m with
  | accept ha => exact .accept ha
  | move hr _ ih =>
    obtain ⟨m, rfl⟩ : ∃ k, m = k + 1 := ⟨m - 1, by omega⟩
    exact .move hr (ih (by omega))

theorem Accepts.of_successor (hr : r ∈ successors steps text q) (h : Accepts steps text r) :
    Accepts steps text q :=
  let ⟨n, hn⟩ := h
  ⟨n + 1, .move hr hn⟩

end Moves

/-! ## One step of the search -/

/-- The pair a frame explores; a frame that restores a slot explores none. -/
def Frame.pair? : Frame → Option (Nat × Nat)
  | .explore s pos => some (s, pos)
  | .restore _ _ => none

/-- The pairs waiting on a stack. -/
def pending (stack : List Frame) : List (Nat × Nat) := stack.filterMap Frame.pair?

variable {prog : Program} {text : Array Char} {width fuel s pos : Nat} {rest : List Frame}
  {seen : Array Bool} {slots : Slots}

/-- Exploring a pair that is not marked either accepts, or marks it and pushes frames for
exactly the pairs it moves to, at most two, in order. -/
theorem explore_fresh (prog : Program) (text : Array Char) (fuel : Nat) (rest : List Frame)
    (slots : Slots) (hfresh : seen[s * width + pos]?.getD true = false) :
    (Accepting prog.steps (s, pos) ∧
      explore prog text width (fuel + 1) (.explore s pos :: rest) seen slots =
        (some slots, seen.setIfInBounds (s * width + pos) true)) ∨
    (¬ Accepting prog.steps (s, pos) ∧ ∃ pushed slots',
      pending pushed = successors prog.steps text (s, pos) ∧ pushed.length ≤ 2 ∧
      explore prog text width (fuel + 1) (.explore s pos :: rest) seen slots =
        explore prog text width fuel (pushed ++ rest)
          (seen.setIfInBounds (s * width + pos) true) slots') := by
  rw [explore]
  simp only [hfresh, Bool.false_eq_true, if_false]
  rcases hs : prog.steps[s]? with _ | ⟨set, next⟩ | ⟨a, b⟩ | ⟨l, next⟩ | ⟨slot, next⟩ | _
  · -- a state outside the automaton leads nowhere
    refine .inr ⟨by simp [Accepting, hs], [], slots, by simp [pending, successors, hs], by simp, ?_⟩
    simp
  · rcases hc : text[pos]? with _ | c
    · refine .inr ⟨by simp [Accepting, hs], [], slots,
        by simp [pending, successors, hs, hc], by simp, ?_⟩
      simp
    · by_cases hin : set.contains c = true
      · refine .inr ⟨by simp [Accepting, hs], [.explore next (pos + 1)], slots,
          by simp [pending, Frame.pair?, successors, hs, hc, hin], by simp, ?_⟩
        simp [hin]
      · refine .inr ⟨by simp [Accepting, hs], [], slots,
          by simp [pending, successors, hs, hc, hin], by simp, ?_⟩
        simp [hin]
  · refine .inr ⟨by simp [Accepting, hs], [.explore a pos, .explore b pos], slots,
      by simp [pending, Frame.pair?, successors, hs], by simp, ?_⟩
    simp
  · by_cases hl : l.holds text pos = true
    · refine .inr ⟨by simp [Accepting, hs], [.explore next pos], slots,
        by simp [pending, Frame.pair?, successors, hs, hl], by simp, ?_⟩
      simp [hl]
    · refine .inr ⟨by simp [Accepting, hs], [], slots,
        by simp [pending, successors, hs, hl], by simp, ?_⟩
      simp [hl]
  · refine .inr ⟨by simp [Accepting, hs], [.explore next pos, .restore slot (slots[slot]?.join)],
      slots.setIfInBounds slot (some pos), by simp [pending, Frame.pair?, successors, hs],
      by simp, ?_⟩
    simp
  · exact .inl ⟨hs, rfl⟩

/-! ## Marks

The pair `(s, pos)` has the mark `s * width + pos`; for positions below the width, no two
pairs share a mark. -/

/-- A pair is marked when its mark is set or lies past the marks. -/
def marked (seen : Array Bool) (width : Nat) (q : Nat × Nat) : Prop :=
  seen[q.1 * width + q.2]?.getD true = true

theorem index_inj {a b c d w : Nat} (h : a * w + b = c * w + d) (hb : b < w) (hd : d < w) :
    a = c ∧ b = d := by
  have hdiv : ∀ x y, y < w → (x * w + y) / w = x := fun x y hy => by
    rw [Nat.add_comm, Nat.add_mul_div_right _ _ (by omega), Nat.div_eq_of_lt hy, Nat.zero_add]
  have hac : a = c := by rw [← hdiv a b hb, h, hdiv c d hd]
  subst hac
  exact ⟨rfl, by omega⟩

theorem marked_setIfInBounds {m : Nat} {q : Nat × Nat} (h : marked seen width q) :
    marked (seen.setIfInBounds m true) width q := by
  unfold marked at *
  rw [Array.getElem?_setIfInBounds]
  split
  · split <;> simp_all
  · exact h

theorem marked_setIfInBounds_self :
    marked (seen.setIfInBounds (s * width + pos) true) width (s, pos) := by
  simp only [marked, Array.getElem?_setIfInBounds_self]
  split <;> simp_all

/-- Setting the mark of `(s, pos)` marks no other pair of positions below the width. -/
theorem marked_of_marked_setIfInBounds {q : Nat × Nat}
    (h : marked (seen.setIfInBounds (s * width + pos) true) width q)
    (hq : q.2 < width) (hpos : pos < width) : marked seen width q ∨ q = (s, pos) := by
  unfold marked at h
  rw [Array.getElem?_setIfInBounds] at h
  split at h
  · rename_i heq
    obtain ⟨h₁, h₂⟩ := index_inj heq hpos hq
    exact .inr (Prod.ext h₁.symm h₂.symm)
  · exact .inl h

/-- The search only ever sets marks, so what setting a mark keeps holds of the marks it
returns. -/
theorem explore_preserves (prog : Program) (text : Array Char) (width : Nat)
    (P : Array Bool → Prop)
    (hP : ∀ seen m, P seen → P (seen.setIfInBounds m true)) :
    ∀ fuel stack seen slots, P seen → P (explore prog text width fuel stack seen slots).2 := by
  intro fuel
  induction fuel with
  | zero => intro stack seen slots h; simpa [explore] using h
  | succ fuel ih =>
    intro stack seen slots h
    match stack with
    | [] => simpa [explore] using h
    | .restore slot old :: rest => rw [explore]; exact ih _ _ _ h
    | .explore s pos :: rest =>
      by_cases hm : seen[s * width + pos]?.getD true = true
      · rw [explore]
        simp only [hm, if_true]
        exact ih _ _ _ h
      · rcases explore_fresh prog text fuel rest slots (Bool.eq_false_iff.mpr hm) with
          ⟨-, heq⟩ | ⟨-, pushed, slots', -, -, heq⟩
        · rw [heq]; exact hP _ _ h
        · rw [heq]; exact ih _ _ _ (hP _ _ h)

/-- A pair marked before a search is marked after it. -/
theorem marked_of_explore {stack : List Frame} {q : Nat × Nat} {found : Option Slots}
    {seen' : Array Bool} (hm : marked seen width q)
    (h : explore prog text width fuel stack seen slots = (found, seen')) :
    marked seen' width q := by
  have := explore_preserves prog text width (fun a => marked a width q)
    (fun _ _ h => marked_setIfInBounds h) fuel stack seen slots hm
  rwa [h] at this

/-- The invariant of the search: a marked pair does not accept, and every pair it moves to
is marked too or waits on the stack. -/
structure Closed (steps : Array Step) (text : Array Char) (seen : Array Bool)
    (stack : List Frame) : Prop where
  not_accepting : ∀ q, q.2 ≤ text.size → marked seen (text.size + 1) q → ¬ Accepting steps q
  successors_mem : ∀ q, q.2 ≤ text.size → marked seen (text.size + 1) q →
    ∀ r ∈ successors steps text q, marked seen (text.size + 1) r ∨ r ∈ pending stack

/-! ## The invariant of the search -/

theorem pending_cons_explore : pending (.explore s pos :: rest) = (s, pos) :: pending rest := rfl

theorem pending_cons_restore {slot : Nat} {old : Option Nat} :
    pending (.restore slot old :: rest) = pending rest := rfl

theorem pending_append {xs ys : List Frame} : pending (xs ++ ys) = pending xs ++ pending ys :=
  List.filterMap_append

/-- Exploring a fresh pair keeps the invariant: the pair is marked, it does not accept, and
the pairs it moves to are pushed. -/
theorem Closed.explore_fresh {pushed : List Frame}
    (hc : Closed prog.steps text seen (.explore s pos :: rest)) (hpos : pos ≤ text.size)
    (hacc : ¬ Accepting prog.steps (s, pos))
    (hpushed : pending pushed = successors prog.steps text (s, pos)) :
    Closed prog.steps text (seen.setIfInBounds (s * (text.size + 1) + pos) true)
      (pushed ++ rest) := by
  constructor
  · intro q hq hm
    rcases marked_of_marked_setIfInBounds hm (by omega) (by omega) with hm | rfl
    · exact hc.not_accepting q hq hm
    · exact hacc
  · intro q hq hm r hr
    rw [pending_append, List.mem_append]
    rcases marked_of_marked_setIfInBounds hm (by omega) (by omega) with hm | rfl
    · rcases hc.successors_mem q hq hm r hr with hr | hr
      · exact .inl (marked_setIfInBounds hr)
      · rw [pending_cons_explore, List.mem_cons] at hr
        rcases hr with rfl | hr
        · exact .inl marked_setIfInBounds_self
        · exact .inr (.inr hr)
    · exact .inr (.inl (hpushed ▸ hr))

/-- Popping a pair that is already marked keeps the invariant. -/
theorem Closed.pop_marked (hc : Closed prog.steps text seen (.explore s pos :: rest))
    (hm : marked seen (text.size + 1) (s, pos)) : Closed prog.steps text seen rest := by
  refine ⟨hc.not_accepting, fun q hq hmq r hr => ?_⟩
  rcases hc.successors_mem q hq hmq r hr with hr | hr
  · exact .inl hr
  · rw [pending_cons_explore, List.mem_cons] at hr
    rcases hr with rfl | hr
    · exact .inl hm
    · exact .inr hr

/-- Setting a mark that was clear leaves one clear mark fewer. -/
theorem count_setIfInBounds_fresh {m : Nat} (h : seen[m]? = some false) :
    (seen.setIfInBounds m true).count false + 1 = seen.count false := by
  obtain ⟨hm, hv⟩ := Array.getElem?_eq_some_iff.mp h
  have hpos : 0 < seen.count false := Array.count_pos_iff.mpr (Array.mem_of_getElem? h)
  rw [Array.setIfInBounds_def, dif_pos hm, Array.count_set hm, hv]
  simp
  omega

theorem getElem?_eq_false_of_getD {m : Nat} (h : ¬ seen[m]?.getD true = true) :
    seen[m]? = some false := by
  cases hx : seen[m]? with
  | none => simp [hx] at h
  | some b => simp_all

/-- A search that ends without a match, started with more fuel than three times the
clear marks plus the frames, ends with an empty stack: its marks are closed under moves and
every pair that was waiting is marked. The induction is on the fuel; each step lowers the
bound by at least one. -/
theorem explore_none : ∀ fuel (stack : List Frame) (seen seen' : Array Bool) (slots : Slots),
    (∀ q ∈ pending stack, q.2 ≤ text.size) → Closed prog.steps text seen stack →
    3 * seen.count false + stack.length < fuel →
    explore prog text (text.size + 1) fuel stack seen slots = (none, seen') →
    Closed prog.steps text seen' [] ∧ ∀ q ∈ pending stack, marked seen' (text.size + 1) q := by
  intro fuel
  induction fuel with
  | zero => intro _ _ _ _ _ _ hfuel; omega
  | succ fuel ih =>
    intro stack seen seen' slots hpend hc hfuel h
    match stack with
    | [] =>
      simp only [explore, Prod.mk.injEq] at h
      obtain ⟨-, rfl⟩ := h
      exact ⟨hc, by simp [pending]⟩
    | .restore slot old :: rest =>
      rw [explore] at h
      simp only [List.length_cons] at hfuel
      rw [pending_cons_restore] at hpend ⊢
      exact ih rest seen seen' _ hpend ⟨hc.not_accepting, hc.successors_mem⟩
        (by omega) h
    | .explore s pos :: rest =>
      simp only [List.length_cons] at hfuel
      rw [pending_cons_explore] at hpend ⊢
      have hpos : pos ≤ text.size := hpend (s, pos) List.mem_cons_self
      have hrest : ∀ q ∈ pending rest, q.2 ≤ text.size := fun q hq => hpend q (.tail _ hq)
      by_cases hm : seen[s * (text.size + 1) + pos]?.getD true = true
      · -- marked already: pop it
        rw [explore] at h
        simp only [hm, if_true] at h
        obtain ⟨hc', hmarked⟩ := ih rest seen seen' slots hrest (hc.pop_marked hm) (by omega) h
        refine ⟨hc', fun q hq => ?_⟩
        rcases List.mem_cons.mp hq with rfl | hq
        · exact marked_of_explore hm h
        · exact hmarked q hq
      · rcases explore_fresh prog text fuel rest slots (Bool.eq_false_iff.mpr hm) with
          ⟨-, heq⟩ | ⟨hacc, pushed, slots', hpushed, hlen, heq⟩
        · rw [heq] at h
          cases h
        · -- fresh: mark it and push the pairs it moves to
          rw [heq] at h
          have hcount := count_setIfInBounds_fresh (getElem?_eq_false_of_getD hm)
          have hpend' : ∀ q ∈ pending (pushed ++ rest), q.2 ≤ text.size := by
            intro q hq
            rw [pending_append, hpushed, List.mem_append] at hq
            rcases hq with hq | hq
            · exact snd_le_of_mem_successors hq hpos
            · exact hrest q hq
          obtain ⟨hc', hmarked⟩ := ih (pushed ++ rest) _ seen' slots' hpend'
            (hc.explore_fresh hpos hacc hpushed) (by rw [List.length_append]; omega) h
          refine ⟨hc', fun q hq => ?_⟩
          rcases List.mem_cons.mp hq with rfl | hq
          · exact marked_of_explore marked_setIfInBounds_self h
          · exact hmarked q (by rw [pending_append]; exact List.mem_append_right _ hq)


/-! ## The whole search -/

/-- A search that finds a match found it from a pair that accepts and waited on its stack. -/
theorem explore_some : ∀ fuel (stack : List Frame) (seen seen' : Array Bool) (slots found : Slots),
    explore prog text width fuel stack seen slots = (some found, seen') →
    ∃ q ∈ pending stack, Accepts prog.steps text q := by
  intro fuel
  induction fuel with
  | zero => intro _ _ _ _ _ h; simp [explore] at h
  | succ fuel ih =>
    intro stack seen seen' slots found h
    match stack with
    | [] => simp [explore] at h
    | .restore slot old :: rest =>
      rw [explore] at h
      exact ih rest _ _ _ _ h
    | .explore s pos :: rest =>
      rw [pending_cons_explore]
      by_cases hm : seen[s * width + pos]?.getD true = true
      · rw [explore] at h
        simp only [hm, if_true] at h
        obtain ⟨q, hq, hacc⟩ := ih rest _ _ _ _ h
        exact ⟨q, .tail _ hq, hacc⟩
      · rcases explore_fresh prog text fuel rest slots (Bool.eq_false_iff.mpr hm) with
          ⟨hacc, -⟩ | ⟨-, pushed, slots', hpushed, -, heq⟩
        · exact ⟨(s, pos), List.mem_cons_self, 0, .accept hacc⟩
        · rw [heq] at h
          obtain ⟨q, hq, hacc⟩ := ih _ _ _ _ _ h
          rw [pending_append, hpushed, List.mem_append] at hq
          rcases hq with hq | hq
          · exact ⟨(s, pos), List.mem_cons_self, hacc.of_successor hq⟩
          · exact ⟨q, .tail _ hq, hacc⟩

/-- Once the stack is empty, no marked pair accepts: the marks are closed under moves and
none of them accepts. The induction is on the length of the run. -/
theorem Closed.not_acceptsWithin (hc : Closed prog.steps text seen []) {n : Nat} {q : Nat × Nat}
    (hq : q.2 ≤ text.size) (hm : marked seen (text.size + 1) q) :
    ¬ AcceptsWithin prog.steps text n q := by
  intro h
  induction h with
  | accept hacc => exact hc.not_accepting _ hq hm hacc
  | move hr _ ih =>
    rcases hc.successors_mem _ hq hm _ hr with hm' | hmem
    · exact ih (snd_le_of_mem_successors hr hq) hm'
    · simp [pending] at hmem

/-- Before the search, only the pairs of states outside the automaton are marked, and
they neither accept nor move. -/
theorem closed_replicate :
    Closed prog.steps text (Array.replicate (prog.steps.size * (text.size + 1)) false) [] := by
  -- a marked pair's mark lies past the marks, so its state lies past the states
  have hout : ∀ q : Nat × Nat, q.2 ≤ text.size →
      marked (Array.replicate (prog.steps.size * (text.size + 1)) false) (text.size + 1) q →
      prog.steps[q.1]? = none := by
    intro q hq hm
    simp only [marked, Array.getElem?_replicate] at hm
    split at hm
    · simp at hm
    · rename_i hge
      apply Array.getElem?_eq_none
      refine Nat.le_of_not_lt fun hlt => hge ?_
      have : (q.1 + 1) * (text.size + 1) ≤ prog.steps.size * (text.size + 1) :=
        Nat.mul_le_mul_right _ hlt
      rw [Nat.add_mul, Nat.one_mul] at this
      omega
  refine ⟨fun q hq hm hacc => ?_, fun q hq hm r hr => ?_⟩
  · simp [Accepting, hout q hq hm] at hacc
  · simp [successors_of_none (hout q hq hm)] at hr


theorem Closed.of_empty (hc : Closed prog.steps text seen []) (stack : List Frame) :
    Closed prog.steps text seen stack :=
  ⟨hc.not_accepting, fun q hq hm r hr =>
    (hc.successors_mem q hq hm r hr).imp_right (by simp [pending])⟩

theorem size_explore {stack : List Frame} {found : Option Slots} {seen' : Array Bool}
    (h : explore prog text width fuel stack seen slots = (found, seen')) :
    seen'.size = seen.size := by
  have := explore_preserves prog text width (fun a => a.size = seen.size)
    (fun _ _ h => by rw [Array.size_setIfInBounds, h]) fuel stack seen slots rfl
  rwa [h] at this

/-- Trying the start positions from `start` on finds a match exactly when the automaton
accepts from one of them. The marks carried from one start to the next are closed, so a
pair a failed start marked is rightly never explored again. -/
theorem searchStarts_isSome_iff : ∀ n start (seen : Array Bool),
    seen.size = prog.steps.size * (text.size + 1) → Closed prog.steps text seen [] →
    start + n = text.size + 1 →
    ((searchStarts prog text (3 * (prog.steps.size * (text.size + 1)) + 2) n start seen).isSome ↔
      ∃ k, start ≤ k ∧ k ≤ text.size ∧ Accepts prog.steps text (prog.start, k)) := by
  intro n
  induction n with
  | zero =>
    intro start seen _ _ hn
    simp only [searchStarts, Option.isSome_none, Bool.false_eq_true, false_iff]
    rintro ⟨k, hk, hk', -⟩
    omega
  | succ n ih =>
    intro start seen hsize hc hn
    have hroot : ∀ q ∈ pending [.explore prog.start start], q = (prog.start, start) := by
      simp [pending, Frame.pair?]
    rw [searchStarts]
    rcases h : explore prog text (text.size + 1) (3 * (prog.steps.size * (text.size + 1)) + 2)
        [.explore prog.start start] seen (Array.replicate prog.slots none) with ⟨_ | found, seen'⟩
    · -- no match from `start`: its pair is marked under closed marks, so it does not accept
      have hcount : seen.count false ≤ seen.size := Array.count_le_size
      obtain ⟨hc', hmarked⟩ := explore_none _ _ _ _ _
        (fun q hq => by rw [hroot q hq]; simp only; omega) (hc.of_empty _)
        (by simp only [List.length_singleton]; omega) h
      have hnot : ¬ Accepts prog.steps text (prog.start, start) := fun ⟨m, hm⟩ =>
        hc'.not_acceptsWithin (by simp only; omega) (hmarked _ (by simp [pending, Frame.pair?])) hm
      simp only
      rw [ih (start + 1) seen' (by rw [size_explore h, hsize]) hc' (by omega)]
      constructor
      · rintro ⟨k, hk, hk', hacc⟩
        exact ⟨k, by omega, hk', hacc⟩
      · rintro ⟨k, hk, hk', hacc⟩
        rcases Nat.eq_or_lt_of_le hk with rfl | hlt
        · exact absurd hacc hnot
        · exact ⟨k, hlt, hk', hacc⟩
    · simp only [Option.isSome_some, true_iff]
      obtain ⟨q, hq, hacc⟩ := explore_some _ _ _ _ _ _ h
      rw [hroot q hq] at hacc
      exact ⟨start, Nat.le_refl _, by omega, hacc⟩

/-- The search finds a match exactly when the automaton accepts from some start position. -/
theorem search_isSome_iff :
    (prog.search text).isSome ↔ ∃ k ≤ text.size, Accepts prog.steps text (prog.start, k) := by
  unfold Program.search
  rw [searchStarts_isSome_iff (text.size + 1) 0 _ (by simp) closed_replicate (by omega)]
  simp

end DumpTopology.Regex
