import DumpTopology.Regex.Pattern
import DumpTopology.Proofs.Regex.Search
import DumpTopology.Proofs.Regex.Class

/-!
# Automata match what their trees describe

`Node.Spans text n i j` is what a tree means: it matches the characters of `text` from
position `i` up to `j`. A class matches one character it holds, a repetition between its
least and most rounds of its body, a sequence its items one after another, an alternation
one of its alternatives, an assertion the empty text where it holds, and a group what its
body matches.

A tree is compiled before a successor state and gives its entry state. `Builds b L` is what
such a compiler promises: it only appends states, and in every automaton that keeps them the
entry leads to the successor across exactly the spans of `L` (`Leads`). Every span gives a
run from the entry to the successor at its end; every accepting run from the entry passes
the successor at the end of a span, with no more moves left. Counting the moves is what lets
a loop be unwound by induction.

Each way of building composes: a state that consumes or asserts, two builds in a row, a
choice between two, a group's records around a build, and the three shapes of repetition. So
every well-formed tree compiles to an automaton of its spans (`builds_compileNode`), and a
pattern matches a text exactly when its tree spans part of it (`Pattern.isMatch_iff`).
-/
namespace DumpTopology.Regex

/-! ## What a tree matches -/

/-- `r` rounds of a relation, one after another. -/
def Rounds (R : Nat → Nat → Prop) : Nat → Nat → Nat → Prop
  | 0, i, j => i = j
  | r + 1, i, j => ∃ m, R i m ∧ Rounds R r m j

mutual
/-- The tree matches the characters of `text` from position `i` up to `j`. -/
def Node.Spans (text : Array Char) : Node → Nat → Nat → Prop
  | .empty, i, j => j = i
  | .chars cls, i, j => j = i + 1 ∧ ∃ c, text[i]? = some c ∧ cls.contains c.toNat = true
  | .look l, i, j => j = i ∧ l.holds text i = true
  | .rep lo hi _ body, i, j =>
    ∃ r, lo ≤ r ∧ (∀ h, hi = some h → r ≤ h) ∧ Rounds (Node.Spans text body) r i j
  | .group _ body, i, j => Node.Spans text body i j
  | .seq items, i, j => Node.SeqSpans text items i j
  | .alt items, i, j => Node.AltSpans text items i j

/-- The items match one after another from `i` up to `j`. -/
def Node.SeqSpans (text : Array Char) : List Node → Nat → Nat → Prop
  | [], i, j => j = i
  | n :: rest, i, j => ∃ m, Node.Spans text n i m ∧ Node.SeqSpans text rest m j

/-- One of the alternatives matches from `i` up to `j`. -/
def Node.AltSpans (text : Array Char) : List Node → Nat → Nat → Prop
  | [], _, _ => False
  | n :: rest, i, j => Node.Spans text n i j ∨ Node.AltSpans text rest i j
end

mutual
/-- The trees whose automata are built as they read: classes have separated ranges, an
alternation has an alternative, and a repetition's least count is at most its greatest. -/
def Node.WellFormed : Node → Bool
  | .empty => true
  | .chars cls => separated cls.ranges
  | .look _ => true
  | .rep lo hi _ body => hi.all (fun h => decide (lo ≤ h)) && body.WellFormed
  | .group _ body => body.WellFormed
  | .seq items => Node.allWellFormed items
  | .alt items => !items.isEmpty && Node.allWellFormed items

/-- Every tree of the list is well formed. -/
def Node.allWellFormed : List Node → Bool
  | [] => true
  | n :: rest => n.WellFormed && Node.allWellFormed rest
end

theorem rounds_succ' {R : Nat → Nat → Prop} :
    ∀ r i j, Rounds R (r + 1) i j ↔ ∃ m, Rounds R r i m ∧ R m j
  | 0, i, j => by simp [Rounds]
  | r + 1, i, j => by
    simp only [Rounds] at *
    constructor
    · rintro ⟨m, hm, hrest⟩
      obtain ⟨m', hr, hm'⟩ := (rounds_succ' r m j).mp hrest
      exact ⟨m', ⟨m, hm, hr⟩, hm'⟩
    · rintro ⟨m', ⟨m, hm, hr⟩, hm'⟩
      exact ⟨m, hm, (rounds_succ' r m j).mpr ⟨m', hr, hm'⟩⟩

theorem rounds_add {R : Nat → Nat → Prop} :
    ∀ r s i j, Rounds R (r + s) i j ↔ ∃ m, Rounds R r i m ∧ Rounds R s m j
  | 0, s, i, j => by simp [Rounds]
  | r + 1, s, i, j => by
    rw [Nat.add_right_comm]
    simp only [Rounds]
    constructor
    · rintro ⟨m, hm, hrest⟩
      obtain ⟨m', hr, hs⟩ := (rounds_add r s m j).mp hrest
      exact ⟨m', ⟨m, hm, hr⟩, hs⟩
    · rintro ⟨m', ⟨m, hm, hr⟩, hs⟩
      exact ⟨m, hm, (rounds_add r s m j).mpr ⟨m', hr, hs⟩⟩

/-! ## Moves out of each kind of state -/

/-- A run of moves leads from one pair to another. -/
def Reach (steps : Array Step) (text : Array Char) : Nat × Nat → Nat × Nat → Prop :=
  Relation.ReflTransGen fun q r => r ∈ successors steps text q

section Steps

variable {P : Array Step} {text : Array Char} {s i : Nat} {r : Nat × Nat}

theorem mem_successors_chars {set : Text.CodeSet} {next : Nat}
    (h : P[s]? = some (.chars set next)) :
    r ∈ successors P text (s, i) ↔
      ∃ c, text[i]? = some c ∧ set.contains c = true ∧ r = (next, i + 1) := by
  rcases hc : text[i]? with _ | c
  · simp [successors, h, hc]
  · by_cases hin : set.contains c = true
    · simp [successors, h, hc, hin]
    · simp [successors, h, hc, hin]

theorem mem_successors_split {a b : Nat} (h : P[s]? = some (.split a b)) :
    r ∈ successors P text (s, i) ↔ r = (a, i) ∨ r = (b, i) := by
  simp [successors, h]

theorem mem_successors_look {l : Look} {next : Nat} (h : P[s]? = some (.look l next)) :
    r ∈ successors P text (s, i) ↔ l.holds text i = true ∧ r = (next, i) := by
  by_cases hl : l.holds text i = true
  · simp [successors, h, hl]
  · simp [successors, h, hl]

theorem mem_successors_save {slot next : Nat} (h : P[s]? = some (.save slot next)) :
    r ∈ successors P text (s, i) ↔ r = (next, i) := by
  simp [successors, h]

/-- Both orders of preference between another round and the exit move to the same pairs. -/
theorem mem_successors_roundChoice {greedy : Bool} {round exit : Nat}
    (h : P[s]? = some (roundChoice greedy round exit)) :
    r ∈ successors P text (s, i) ↔ r = (round, i) ∨ r = (exit, i) := by
  cases greedy
  · rw [mem_successors_split h, or_comm]
  · exact mem_successors_split h

theorem roundChoice_ne_accept (greedy : Bool) (round exit : Nat) :
    roundChoice greedy round exit ≠ .accept := by
  cases greedy <;> nofun

/-- An accepting run from a state that does not accept starts with a move. -/
theorem acceptsWithin_of_ne_accept {n : Nat} (hs : P[s]? ≠ some .accept)
    (h : AcceptsWithin P text n (s, i)) :
    ∃ m r, n = m + 1 ∧ r ∈ successors P text (s, i) ∧ AcceptsWithin P text m r := by
  cases h with
  | accept hacc => exact absurd hacc hs
  | move hr hrest => exact ⟨_, _, rfl, hr, hrest⟩

theorem Reach.single {q : Nat × Nat} (hr : r ∈ successors P text q) : Reach P text q r :=
  Relation.ReflTransGen.single hr

theorem Reach.trans {q q' : Nat × Nat} (h₁ : Reach P text q q') (h₂ : Reach P text q' r) :
    Reach P text q r :=
  Relation.ReflTransGen.trans h₁ h₂

theorem Reach.head {q q' : Nat × Nat} (h₁ : q' ∈ successors P text q)
    (h₂ : Reach P text q' r) : Reach P text q r :=
  Relation.ReflTransGen.head h₁ h₂

/-- A run to a pair that accepts gives acceptance. -/
theorem Accepts.of_reach {q : Nat × Nat} (h : Reach P text q r) (hr : Accepts P text r) :
    Accepts P text q := by
  induction h using Relation.ReflTransGen.head_induction_on with
  | refl => exact hr
  | head hmove _ ih => exact ih.of_successor hmove

end Steps


/-! ## Building automata -/

theorem run_bind {α β : Type} (m : Build α) (f : α → Build β) (a : Array Step) :
    (m >>= f).run a = (f (m.run a).1).run (m.run a).2 := rfl

theorem run_emit (s : Step) (a : Array Step) : (emit s).run a = (a.size, a.push s) := rfl

theorem run_fill (i : Nat) (s : Step) (a : Array Step) :
    (fill i s).run a = ((), a.setIfInBounds i s) := rfl

theorem run_pure {α : Type} (x : α) (a : Array Step) : (pure x : Build α).run a = (x, a) := rfl

/-- The states of `a` stand unchanged at the start of `a'`. -/
structure Extends (a a' : Array Step) : Prop where
  size_le : a.size ≤ a'.size
  getElem?_eq : ∀ k < a.size, a'[k]? = a[k]?

theorem Extends.refl (a : Array Step) : Extends a a := ⟨Nat.le_refl _, fun _ _ => rfl⟩

theorem Extends.trans {a a' a'' : Array Step} (h₁ : Extends a a') (h₂ : Extends a' a'') :
    Extends a a'' :=
  ⟨Nat.le_trans h₁.size_le h₂.size_le, fun k hk => by
    rw [h₂.getElem?_eq k (Nat.lt_of_lt_of_le hk h₁.size_le), h₁.getElem?_eq k hk]⟩

theorem Extends.push (a : Array Step) (s : Step) : Extends a (a.push s) :=
  ⟨by simp, fun k hk => by simp [Array.getElem?_push, Nat.ne_of_lt hk]⟩

/-- Filling a state placed after `a` keeps `a`. -/
theorem Extends.setIfInBounds {a a' : Array Step} (h : Extends a a') {c : Nat} (hc : a.size ≤ c)
    (s : Step) : Extends a (a'.setIfInBounds c s) :=
  ⟨by simpa using h.size_le, fun k hk => by
    rw [Array.getElem?_setIfInBounds_ne (by omega), h.getElem?_eq k hk]⟩

/-- The automaton `P` holds the states that `a'` placed after `a`. -/
def Keeps (P a a' : Array Step) : Prop := ∀ k, a.size ≤ k → k < a'.size → P[k]? = a'[k]?

/-- Keeping the states of a longer build keeps those of a build it extends. -/
theorem Keeps.left {P a a₁ a₂ : Array Step} (h : Keeps P a a₂) (hx : Extends a₁ a₂) :
    Keeps P a a₁ := fun k hk hk' => by
  rw [h k hk (Nat.lt_of_lt_of_le hk' hx.size_le), hx.getElem?_eq k hk']

theorem Keeps.right {P a a₁ a₂ : Array Step} (h : Keeps P a a₂) (h₁ : a.size ≤ a₁.size) :
    Keeps P a₁ a₂ := fun k hk hk' => h k (Nat.le_trans h₁ hk) hk'

/-- In the automaton `P`, the entry leads to `next` across exactly the spans of `L`. -/
structure Leads (P : Array Step) (entry next : Nat) (L : Array Char → Nat → Nat → Prop) :
    Prop where
  reach : ∀ text i j, L text i j → Reach P text (entry, i) (next, j)
  within : ∀ text n i, AcceptsWithin P text n (entry, i) →
    ∃ j, L text i j ∧ AcceptsWithin P text n (next, j)

/-- What a compiler of a piece of pattern promises: it only appends states, and in every
automaton that keeps them its entry leads to the successor across the spans of `L`. -/
def Builds (b : Nat → Build Nat) (L : Array Char → Nat → Nat → Prop) : Prop :=
  ∀ next a e a', (b next).run a = (e, a') → Extends a a' ∧ ∀ P, Keeps P a a' → Leads P e next L

theorem Leads.congr {P : Array Step} {e next : Nat} {L L' : Array Char → Nat → Nat → Prop}
    (h : Leads P e next L) (hL : ∀ text i j, L text i j ↔ L' text i j) : Leads P e next L' := by
  refine ⟨fun text i j hl => h.reach text i j ((hL _ _ _).mpr hl), fun text n i hacc => ?_⟩
  obtain ⟨j, hl, hj⟩ := h.within text n i hacc
  exact ⟨j, (hL _ _ _).mp hl, hj⟩

/-- Leading to a state and from there on chains the spans. -/
theorem Leads.trans {P : Array Step} {e m next : Nat} {L₁ L₂ : Array Char → Nat → Nat → Prop}
    (h₁ : Leads P e m L₁) (h₂ : Leads P m next L₂) :
    Leads P e next fun text i j => ∃ k, L₁ text i k ∧ L₂ text k j := by
  refine ⟨fun text i j ⟨k, hk₁, hk₂⟩ => (h₁.reach text i k hk₁).trans (h₂.reach text k j hk₂),
    fun text n i hacc => ?_⟩
  obtain ⟨k, hk, hacc⟩ := h₁.within text n i hacc
  obtain ⟨j, hj, hacc⟩ := h₂.within text n k hacc
  exact ⟨j, ⟨k, hk, hj⟩, hacc⟩

/-- A choice between a state that leads to the exit and the exit itself. -/
theorem Leads.choice {P : Array Step} {s x exit : Nat} {greedy : Bool}
    {L : Array Char → Nat → Nat → Prop} (hs : P[s]? = some (roundChoice greedy x exit))
    (h : Leads P x exit L) : Leads P s exit fun text i j => j = i ∨ L text i j := by
  refine ⟨fun text i j hl => ?_, fun text n i hacc => ?_⟩
  · rcases hl with rfl | hl
    · exact .single ((mem_successors_roundChoice hs).mpr (.inr rfl))
    · exact .head ((mem_successors_roundChoice hs).mpr (.inl rfl)) (h.reach text i j hl)
  · obtain ⟨m, r, rfl, hr, hrest⟩ :=
      acceptsWithin_of_ne_accept (by rw [hs]; simpa using roundChoice_ne_accept _ _ _) hacc
    rcases (mem_successors_roundChoice hs).mp hr with rfl | rfl
    · obtain ⟨j, hj, hacc⟩ := h.within text m i hrest
      exact ⟨j, .inr hj, hacc.mono (Nat.le_succ m)⟩
    · exact ⟨i, .inl rfl, hrest.mono (Nat.le_succ m)⟩

theorem Builds.congr {b : Nat → Build Nat} {L L' : Array Char → Nat → Nat → Prop}
    (h : Builds b L) (hL : ∀ text i j, L text i j ↔ L' text i j) : Builds b L' := by
  intro next a e a' hrun
  obtain ⟨hx, hleads⟩ := h next a e a' hrun
  exact ⟨hx, fun P hP => (hleads P hP).congr hL⟩

theorem Builds.of_eq {b b' : Nat → Build Nat} {L : Array Char → Nat → Nat → Prop}
    (h : Builds b L) (hb : ∀ next, b' next = b next) : Builds b' L := by
  intro next a e a' hrun
  rw [hb] at hrun
  exact h next a e a' hrun

/-- Compiling nothing: the entry is the successor. -/
theorem builds_pure : Builds pure fun _ i j => j = i := by
  intro next a e a' hrun
  rw [run_pure] at hrun
  cases hrun
  exact ⟨.refl a, fun P _ => ⟨fun _ i j hj => hj ▸ .refl, fun _ _ i h => ⟨i, rfl, h⟩⟩⟩

/-- A state placed by itself, whose moves lead to the successor across the spans of `L`. -/
theorem builds_emit {step : Nat → Step} {L : Array Char → Nat → Nat → Prop}
    (hstep : ∀ P next s text i, P[s]? = some (step next) →
      ((∀ j, L text i j → (next, j) ∈ successors P text (s, i)) ∧
        (step next ≠ .accept) ∧ ∀ r ∈ successors P text (s, i), ∃ j, L text i j ∧ r = (next, j))) :
    Builds (fun next => emit (step next)) L := by
  intro next a e a' hrun
  rw [run_emit] at hrun
  cases hrun
  refine ⟨.push a _, fun P hP => ?_⟩
  have hs : P[a.size]? = some (step next) := by rw [hP a.size (Nat.le_refl _) (by simp)]; simp
  refine ⟨fun text i j hl => .single ((hstep P next _ text i hs).1 j hl), fun text n i hacc => ?_⟩
  obtain ⟨-, hne, hmoves⟩ := hstep P next _ text i hs
  obtain ⟨m, r, rfl, hr, hrest⟩ := acceptsWithin_of_ne_accept (by rw [hs]; simpa using hne) hacc
  obtain ⟨j, hl, rfl⟩ := hmoves r hr
  exact ⟨j, hl, hrest.mono (Nat.le_succ m)⟩

/-! ## Each way of building -/

/-- A class with separated ranges compiles to a state that consumes one of its characters. -/
theorem builds_chars {cls : CharClass} (h : separated cls.ranges = true) :
    Builds (fun next => emit (.chars cls.toCodeSet next)) fun text => (Node.chars cls).Spans text :=
  builds_emit fun P next s text i hs => by
    simp only [Node.Spans]
    refine ⟨?_, nofun, fun r hr => ?_⟩
    · rintro j ⟨rfl, c, hc, hin⟩
      exact (mem_successors_chars hs).mpr ⟨c, hc, by rw [CharClass.contains_toCodeSet h]; exact hin,
        rfl⟩
    · obtain ⟨c, hc, hin, rfl⟩ := (mem_successors_chars hs).mp hr
      exact ⟨i + 1, ⟨rfl, c, hc, by rw [← CharClass.contains_toCodeSet h]; exact hin⟩, rfl⟩

/-- An assertion compiles to a state that moves on in place where it holds. -/
theorem builds_look (l : Look) :
    Builds (fun next => emit (.look l next)) fun text => (Node.look l).Spans text :=
  builds_emit fun P next s text i hs => by
    simp only [Node.Spans]
    refine ⟨?_, nofun, fun r hr => ?_⟩
    · rintro j ⟨rfl, hl⟩
      exact (mem_successors_look hs).mpr ⟨hl, rfl⟩
    · obtain ⟨hl, rfl⟩ := (mem_successors_look hs).mp hr
      exact ⟨i, ⟨rfl, hl⟩, rfl⟩

/-- Two builds in a row, the second placed first: its entry is the successor of the first. -/
theorem Builds.seq {b₁ b₂ : Nat → Build Nat} {L₁ L₂ : Array Char → Nat → Nat → Prop}
    (h₁ : Builds b₁ L₁) (h₂ : Builds b₂ L₂) :
    Builds (fun next => b₂ next >>= b₁) fun text i j => ∃ m, L₁ text i m ∧ L₂ text m j := by
  intro next a e a' hrun
  rw [run_bind] at hrun
  rcases hrun₂ : (b₂ next).run a with ⟨m, a₁⟩
  rw [hrun₂] at hrun
  obtain ⟨hx₂, hl₂⟩ := h₂ next a m a₁ hrun₂
  obtain ⟨hx₁, hl₁⟩ := h₁ m a₁ e a' hrun
  refine ⟨hx₂.trans hx₁, fun P hP => ?_⟩
  exact (hl₁ P (hP.right hx₂.size_le)).trans (hl₂ P (hP.left hx₁))

/-- A choice between two builds before the same successor, the first preferred. -/
theorem Builds.split {b₁ b₂ : Nat → Build Nat} {L₁ L₂ : Array Char → Nat → Nat → Prop}
    (h₁ : Builds b₁ L₁) (h₂ : Builds b₂ L₂) :
    Builds (fun next => do
        let first ← b₁ next
        let others ← b₂ next
        emit (.split first others))
      fun text i j => L₁ text i j ∨ L₂ text i j := by
  intro next a e a' hrun
  simp only [run_bind, run_emit] at hrun
  rcases hrun₁ : (b₁ next).run a with ⟨f, a₁⟩
  rcases hrun₂ : (b₂ next).run a₁ with ⟨o, a₂⟩
  rw [hrun₁] at hrun
  dsimp only at hrun
  rw [hrun₂] at hrun
  cases hrun
  obtain ⟨hx₁, hl₁⟩ := h₁ next a f a₁ hrun₁
  obtain ⟨hx₂, hl₂⟩ := h₂ next a₁ o a₂ hrun₂
  have hx₃ := Extends.push a₂ (.split f o)
  refine ⟨hx₁.trans (hx₂.trans hx₃), fun P hP => ?_⟩
  have hs : P[a₂.size]? = some (.split f o) := by
    rw [hP a₂.size (Nat.le_trans hx₁.size_le hx₂.size_le) (by simp)]
    simp
  have hP₁ := hl₁ P (hP.left (hx₂.trans hx₃))
  have hP₂ := hl₂ P ((hP.right hx₁.size_le).left hx₃)
  refine ⟨fun text i j hl => ?_, fun text n i hacc => ?_⟩
  · rcases hl with hl | hl
    · exact .head ((mem_successors_split hs).mpr (.inl rfl)) (hP₁.reach text i j hl)
    · exact .head ((mem_successors_split hs).mpr (.inr rfl)) (hP₂.reach text i j hl)
  · obtain ⟨m, r, rfl, hr, hrest⟩ := acceptsWithin_of_ne_accept (by rw [hs]; nofun) hacc
    rcases (mem_successors_split hs).mp hr with rfl | rfl
    · obtain ⟨j, hj, hacc⟩ := hP₁.within text m i hrest
      exact ⟨j, .inl hj, hacc.mono (Nat.le_succ m)⟩
    · obtain ⟨j, hj, hacc⟩ := hP₂.within text m i hrest
      exact ⟨j, .inr hj, hacc.mono (Nat.le_succ m)⟩


/-- A build between two recorded positions: the records move on in place. -/
theorem Builds.saved {b : Nat → Build Nat} {L : Array Char → Nat → Nat → Prop}
    (h : Builds b L) (first last : Nat) :
    Builds (fun next => do
        let close ← emit (.save last next)
        let entry ← b close
        emit (.save first entry)) L := by
  intro next a e a' hrun
  simp only [run_bind, run_emit] at hrun
  rcases hrun₁ : (b a.size).run (a.push (.save last next)) with ⟨en, a₂⟩
  rw [hrun₁] at hrun
  cases hrun
  obtain ⟨hx, hl⟩ := h a.size _ en a₂ hrun₁
  have hx₁ := Extends.push a (.save last next)
  have hx₃ := Extends.push a₂ (.save first en)
  refine ⟨hx₁.trans (hx.trans hx₃), fun P hP => ?_⟩
  have hclose : P[a.size]? = some (.save last next) := by
    rw [hP a.size (Nat.le_refl _) (by have := hx.size_le; simp at this ⊢; omega),
      (hx.trans hx₃).getElem?_eq a.size (by simp)]
    simp
  have hopen : P[a₂.size]? = some (.save first en) := by
    rw [hP a₂.size (by have := hx.size_le; simp at this; omega) (by simp)]
    simp
  have hbody := hl P ((hP.right (by simp)).left hx₃)
  refine ⟨fun text i j hL => ?_, fun text n i hacc => ?_⟩
  · exact .head ((mem_successors_save hopen).mpr rfl) ((hbody.reach text i j hL).trans
      (.single ((mem_successors_save hclose).mpr rfl)))
  · obtain ⟨m, r, rfl, hr, hrest⟩ := acceptsWithin_of_ne_accept (by rw [hopen]; nofun) hacc
    rw [(mem_successors_save hopen).mp hr] at hrest
    obtain ⟨j, hj, hacc⟩ := hbody.within text m i hrest
    obtain ⟨m', r', rfl, hr', hrest'⟩ := acceptsWithin_of_ne_accept (by rw [hclose]; nofun) hacc
    rw [(mem_successors_save hclose).mp hr'] at hrest'
    exact ⟨j, hj, hrest'.mono (by omega)⟩

/-- `n` copies of a build in a row span `n` rounds. -/
theorem Builds.copies {b : Nat → Build Nat} {L : Array Char → Nat → Nat → Prop}
    (h : Builds b L) : ∀ n, Builds (fun next => copies b n next) fun text => Rounds (L text) n
  | 0 => (builds_pure.congr fun _ _ _ => eq_comm).of_eq fun _ => rfl
  | n + 1 => (((Builds.copies h n).seq h).congr fun _ _ _ => (rounds_succ' _ _ _).symm).of_eq
      fun _ => rfl


/-- `n` nested optional copies before `next`, each offering the exit: fewer than `n` rounds
lead to the exit, and exactly `n` to `next`. The induction is on `n`; the new copy is the
innermost, placed before `next`, and its choice becomes the successor of the rest. -/
theorem optionalCopies_leads {b : Nat → Build Nat} {L : Array Char → Nat → Nat → Prop}
    (h : Builds b L) (greedy : Bool) (exit : Nat) :
    ∀ n next a e a', (optionalCopies greedy b exit n next).run a = (e, a') →
      Extends a a' ∧ ∀ P, Keeps P a a' → ∀ text,
        (∀ r i j, r < n → Rounds (L text) r i j → Reach P text (e, i) (exit, j)) ∧
        (∀ i j, Rounds (L text) n i j → Reach P text (e, i) (next, j)) ∧
        (∀ k i, AcceptsWithin P text k (e, i) →
          (∃ r j, r < n ∧ Rounds (L text) r i j ∧ AcceptsWithin P text k (exit, j)) ∨
          ∃ j, Rounds (L text) n i j ∧ AcceptsWithin P text k (next, j)) := by
  intro n
  induction n with
  | zero =>
    intro next a e a' hrun
    rw [optionalCopies, run_pure] at hrun
    cases hrun
    refine ⟨.refl a, fun P _ text => ⟨fun _ _ _ hr => absurd hr (Nat.not_lt_zero _),
      fun i j hij => ?_, fun k i hacc => .inr ⟨i, rfl, hacc⟩⟩⟩
    simp only [Rounds] at hij
    exact hij ▸ .refl
  | succ n ih =>
    intro next a e a' hrun
    simp only [optionalCopies, run_bind, run_emit] at hrun
    rcases hrun₁ : (b next).run a with ⟨en, a₁⟩
    rw [hrun₁] at hrun
    obtain ⟨hx₁, hl₁⟩ := h next a en a₁ hrun₁
    obtain ⟨hx, hrest⟩ := ih _ _ e a' hrun
    have hx₂ := Extends.push a₁ (roundChoice greedy en exit)
    refine ⟨hx₁.trans (hx₂.trans hx), fun P hP text => ?_⟩
    have hc : P[a₁.size]? = some (roundChoice greedy en exit) := by
      rw [hP a₁.size hx₁.size_le (by have := hx.size_le; simp at this; omega),
        hx.getElem?_eq a₁.size (by simp)]
      simp
    have hbody := hl₁ P (hP.left (hx₂.trans hx))
    obtain ⟨hexit, hnext, hwithin⟩ := hrest P (hP.right (by have := hx₁.size_le; simp; omega)) text
    refine ⟨fun r i j hr hround => ?_, fun i j hround => ?_, fun k i hacc => ?_⟩
    · rcases Nat.lt_or_ge r n with hlt | hge
      · exact hexit r i j hlt hround
      · -- the last optional copy is declined: the choice takes the exit
        obtain rfl : r = n := by omega
        exact (hnext i j hround).trans (.single ((mem_successors_roundChoice hc).mpr (.inr rfl)))
    · obtain ⟨m, hm, hlast⟩ := (rounds_succ' n i j).mp hround
      exact (hnext i m hm).trans
        (.head ((mem_successors_roundChoice hc).mpr (.inl rfl)) (hbody.reach text m j hlast))
    · rcases hwithin k i hacc with ⟨r, j, hr, hround, hacc⟩ | ⟨m, hm, hacc⟩
      · exact .inl ⟨r, j, by omega, hround, hacc⟩
      · obtain ⟨k', q, rfl, hq, hrest⟩ :=
          acceptsWithin_of_ne_accept (by rw [hc]; simpa using roundChoice_ne_accept _ _ _) hacc
        rcases (mem_successors_roundChoice hc).mp hq with rfl | rfl
        · obtain ⟨j, hj, hacc⟩ := hbody.within text k' m hrest
          exact .inr ⟨j, (rounds_succ' n i j).mpr ⟨m, hm, hj⟩, hacc.mono (Nat.le_succ k')⟩
        · exact .inl ⟨n, m, Nat.lt_succ_self n, hm, hrest.mono (Nat.le_succ k')⟩

/-- At most `n` rounds: the optional copies with the successor as their exit. -/
theorem Builds.upTo {b : Nat → Build Nat} {L : Array Char → Nat → Nat → Prop}
    (h : Builds b L) (greedy : Bool) (n : Nat) :
    Builds (fun next => optionalCopies greedy b next n next)
      fun text i j => ∃ r, r ≤ n ∧ Rounds (L text) r i j := by
  intro next a e a' hrun
  obtain ⟨hx, hl⟩ := optionalCopies_leads h greedy next n next a e a' hrun
  refine ⟨hx, fun P hP => ⟨fun text i j ⟨r, hr, hround⟩ => ?_, fun text k i hacc => ?_⟩⟩
  · obtain ⟨hexit, hnext, -⟩ := hl P hP text
    rcases Nat.lt_or_ge r n with hlt | hge
    · exact hexit r i j hlt hround
    · exact hnext i j (by rwa [show r = n by omega] at hround)
  · rcases (hl P hP text).2.2 k i hacc with ⟨r, j, hr, hround, hacc⟩ | ⟨j, hround, hacc⟩
    · exact ⟨j, ⟨r, Nat.le_of_lt hr, hround⟩, hacc⟩
    · exact ⟨j, ⟨n, Nat.le_refl n, hround⟩, hacc⟩


/-- A loop: a choice between the body, which leads back to the choice, and the exit. From the
choice any number of rounds leads to the exit, and from the body's entry at least one. The
accepting runs are unwound by strong induction on their number of moves, each round taking
at least the move out of the choice. -/
theorem loop_leads {P : Array Step} {c en exit : Nat} {greedy : Bool}
    {L : Array Char → Nat → Nat → Prop} (hc : P[c]? = some (roundChoice greedy en exit))
    (hbody : Leads P en c L) :
    Leads P c exit (fun text i j => ∃ r, Rounds (L text) r i j) ∧
      Leads P en exit (fun text i j => ∃ r, Rounds (L text) (r + 1) i j) := by
  have hreach : ∀ text r i j, Rounds (L text) r i j → Reach P text (c, i) (exit, j) := by
    intro text r
    induction r with
    | zero =>
      intro i j hij
      exact hij ▸ .single ((mem_successors_roundChoice hc).mpr (.inr rfl))
    | succ r ih =>
      rintro i j ⟨m, hm, hrest⟩
      exact .head ((mem_successors_roundChoice hc).mpr (.inl rfl))
        ((hbody.reach text i m hm).trans (ih m j hrest))
  have hwithin : ∀ text k i, AcceptsWithin P text k (c, i) →
      ∃ j, (∃ r, Rounds (L text) r i j) ∧ AcceptsWithin P text k (exit, j) := by
    intro text k
    induction k using Nat.strongRecOn with
    | _ k ih =>
      intro i hacc
      obtain ⟨k', q, rfl, hq, hrest⟩ :=
        acceptsWithin_of_ne_accept (by rw [hc]; simpa using roundChoice_ne_accept _ _ _) hacc
      rcases (mem_successors_roundChoice hc).mp hq with rfl | rfl
      · -- another round: the body leads back to the choice with no more moves
        obtain ⟨m, hm, hacc⟩ := hbody.within text k' i hrest
        obtain ⟨j, ⟨r, hround⟩, hacc⟩ := ih k' (Nat.lt_succ_self k') m hacc
        exact ⟨j, ⟨r + 1, m, hm, hround⟩, hacc.mono (Nat.le_succ k')⟩
      · exact ⟨i, ⟨0, rfl⟩, hrest.mono (Nat.le_succ k')⟩
  have hloop : Leads P c exit (fun text i j => ∃ r, Rounds (L text) r i j) :=
    ⟨fun text i j ⟨r, hround⟩ => hreach text r i j hround, hwithin⟩
  refine ⟨hloop, (hbody.trans hloop).congr fun text i j => ?_⟩
  simp only [Rounds]
  exact ⟨fun ⟨m, hm, r, hr⟩ => ⟨r, m, hm, hr⟩, fun ⟨r, m, hm, hr⟩ => ⟨m, hm, r, hr⟩⟩

/-- A repetition with no greatest count: `lo` rounds or more, in each of its three shapes. -/
theorem Builds.loop {b : Nat → Build Nat} {L : Array Char → Nat → Nat → Prop}
    (h : Builds b L) (greedy : Bool) (bodyMin : Option Nat) (lo : Nat) :
    Builds (fun exit => repetitionInto greedy bodyMin lo none b exit)
      fun text i j => ∃ r, lo ≤ r ∧ Rounds (L text) r i j := by
  intro exit a e a' hrun
  simp only [repetitionInto, run_bind, run_emit, run_fill] at hrun
  rcases hrun₁ : (b a.size).run (a.push (.split exit exit)) with ⟨en, a₂⟩
  rw [hrun₁] at hrun
  dsimp only at hrun
  obtain ⟨hx₂, hl⟩ := h a.size _ en a₂ hrun₁
  -- the choice is placed first and filled once the body is placed after it
  have hx₃ := (Extends.push a (.split exit exit)).trans hx₂
    |>.setIfInBounds (Nat.le_refl a.size) (roundChoice greedy en exit)
  have hcore : ∀ a', Extends (a₂.setIfInBounds a.size (roundChoice greedy en exit)) a' →
      ∀ P, Keeps P a a' → P[a.size]? = some (roundChoice greedy en exit) ∧ Leads P en a.size L := by
    intro a' hx P hP
    have hsize : a.size < a₂.size := by have := hx₂.size_le; simp at this; omega
    refine ⟨?_, hl P fun k hk hk' => ?_⟩
    · rw [hP a.size (Nat.le_refl _) (by have := hx.size_le; simp at this; omega),
        hx.getElem?_eq a.size (by simpa using hsize), Array.getElem?_setIfInBounds_self]
      simp [hsize]
    · have hk₁ : a.size + 1 ≤ k := by simpa using hk
      rw [hP k (by omega) (by have := hx.size_le; simp at this; omega),
        hx.getElem?_eq k (by simpa using hk'), Array.getElem?_setIfInBounds_ne (by omega)]
  split at hrun
  · rename_i hlo
    have hlo : lo = 0 := by simpa using hlo
    split at hrun
    · -- a body that cannot match the empty text loops around its own choice
      rw [run_pure] at hrun
      cases hrun
      refine ⟨hx₃, fun P hP => ?_⟩
      obtain ⟨hc, hbody⟩ := hcore _ (.refl _) P hP
      exact (loop_leads hc hbody).1.congr fun text i j => by simp [hlo]
    · -- otherwise a second choice comes first, so that an empty round is taken once
      rw [run_emit] at hrun
      cases hrun
      have hx₄ := Extends.push (a₂.setIfInBounds a.size (roundChoice greedy en exit))
        (roundChoice greedy en exit)
      refine ⟨hx₃.trans hx₄, fun P hP => ?_⟩
      obtain ⟨hc, hbody⟩ := hcore _ hx₄ P hP
      have hs : P[(a₂.setIfInBounds a.size (roundChoice greedy en exit)).size]? =
          some (roundChoice greedy en exit) := by
        rw [hP _ (by simp; have := hx₂.size_le; simp at this; omega) (by simp),
          Array.getElem?_push_size]
      refine (Leads.choice hs (loop_leads hc hbody).2).congr fun text i j => ?_
      constructor
      · rintro (rfl | ⟨r, hround⟩)
        · exact ⟨0, by omega, rfl⟩
        · exact ⟨r + 1, by omega, hround⟩
      · rintro ⟨r, -, hround⟩
        cases r with
        | zero => exact .inl hround.symm
        | succ r => exact .inr ⟨r, hround⟩
  · -- `lo - 1` copies before the body that loops
    rename_i hlo
    have hlo : lo ≠ 0 := by simpa using hlo
    obtain ⟨hx₄, hcopies⟩ := Builds.copies h (lo - 1) en _ e a' hrun
    refine ⟨hx₃.trans hx₄, fun P hP => ?_⟩
    obtain ⟨hc, hbody⟩ := hcore _ hx₄ P hP
    refine ((hcopies P (hP.right hx₃.size_le)).trans (loop_leads hc hbody).2).congr
      fun text i j => ?_
    constructor
    · rintro ⟨m, hm, r, hr⟩
      exact ⟨lo - 1 + (r + 1), by omega, (rounds_add _ _ i j).mpr ⟨m, hm, hr⟩⟩
    · rintro ⟨r, hr, hround⟩
      obtain ⟨m, hm, hrest⟩ := (rounds_add (lo - 1) (r - lo + 1) i j).mp
        (by rwa [show lo - 1 + (r - lo + 1) = r by omega])
      exact ⟨m, hm, r - lo, hrest⟩

/-- A repetition between `lo` and `h` rounds, `lo ≤ h`: `lo` copies, then `h - lo` optional
ones. -/
theorem Builds.between {b : Nat → Build Nat} {L : Array Char → Nat → Nat → Prop}
    (hb : Builds b L) (greedy : Bool) (bodyMin : Option Nat) {lo h : Nat} (hle : lo ≤ h) :
    Builds (fun exit => repetitionInto greedy bodyMin lo (some h) b exit)
      fun text i j => ∃ r, lo ≤ r ∧ r ≤ h ∧ Rounds (L text) r i j := by
  refine (((hb.copies lo).seq (hb.upTo greedy (h - lo))).congr fun text i j => ?_).of_eq
    fun _ => rfl
  constructor
  · rintro ⟨m, hm, r, hr, hround⟩
    exact ⟨lo + r, by omega, by omega, (rounds_add lo r i j).mpr ⟨m, hm, hround⟩⟩
  · rintro ⟨r, hlo, hh, hround⟩
    obtain ⟨m, hm, hrest⟩ := (rounds_add lo (r - lo) i j).mp
      (by rwa [show lo + (r - lo) = r by omega])
    exact ⟨m, hm, r - lo, by omega, hrest⟩


/-! ## Every well-formed tree -/

theorem Node.wellFormed_rep {lo : Nat} {hi : Option Nat} {greedy : Bool} {body : Node} :
    (Node.rep lo hi greedy body).WellFormed = true ↔
      (∀ h, hi = some h → lo ≤ h) ∧ body.WellFormed = true := by
  cases hi <;> simp [Node.WellFormed]

mutual
/-- A well-formed tree compiles to an automaton of its spans. The induction follows the
tree, one building lemma for each kind of node. -/
theorem builds_compileNode : ∀ n : Node, n.WellFormed = true →
    Builds (compileNode n) fun text => n.Spans text
  | .empty, _ => builds_pure.of_eq fun _ => by rw [compileNode]
  | .chars cls, h => (builds_chars h).of_eq fun _ => by rw [compileNode]
  | .look l, _ => (builds_look l).of_eq fun _ => by rw [compileNode]
  | .rep lo none greedy body, h =>
    ((Builds.loop (builds_compileNode body (Node.wellFormed_rep.mp h).2) greedy body.minLen
      lo).congr fun text i j => by simp [Node.Spans]).of_eq fun _ => by rw [compileNode]
  | .rep lo (some hh) greedy body, h =>
    ((Builds.between (builds_compileNode body (Node.wellFormed_rep.mp h).2) greedy body.minLen
      ((Node.wellFormed_rep.mp h).1 hh rfl)).congr fun text i j => by
        simp [Node.Spans]).of_eq fun _ => by rw [compileNode]
  | .group k body, h =>
    ((builds_compileNode body h).saved (2 * k) (2 * k + 1)).of_eq fun _ => by rw [compileNode]
  | .seq items, h => (builds_compileSeq items h).of_eq fun _ => by rw [compileNode]
  | .alt items, h => by
    have h' : items ≠ [] ∧ Node.allWellFormed items = true := by
      simpa [Node.WellFormed, List.isEmpty_iff] using h
    exact (builds_compileAlt items h'.1 h'.2).of_eq fun _ => by rw [compileNode]

/-- The items of a sequence compile, last first, to an automaton of their spans in a row. -/
theorem builds_compileSeq : ∀ items : List Node, Node.allWellFormed items = true →
    Builds (compileSeq items) fun text => Node.SeqSpans text items
  | [], _ => builds_pure.of_eq fun _ => by rw [compileSeq]
  | n :: rest, h => by
    have h' : n.WellFormed = true ∧ Node.allWellFormed rest = true := by
      simpa [Node.allWellFormed] using h
    exact ((builds_compileNode n h'.1).seq (builds_compileSeq rest h'.2)).of_eq
      fun _ => by rw [compileSeq]

/-- Alternatives compile to a chain of choices, in their order, of their spans. -/
theorem builds_compileAlt : ∀ items : List Node, items ≠ [] → Node.allWellFormed items = true →
    Builds (compileAlt items) fun text => Node.AltSpans text items
  | [n], _, h => by
    have hn : n.WellFormed = true := by simpa [Node.allWellFormed] using h
    exact ((builds_compileNode n hn).congr fun text i j => by simp [Node.AltSpans]).of_eq
      fun _ => by rw [compileAlt]
  | n :: m :: rest, _, h => by
    have h' : n.WellFormed = true ∧ Node.allWellFormed (m :: rest) = true := by
      simpa [Node.allWellFormed] using h
    exact ((builds_compileNode n h'.1).split (builds_compileAlt (m :: rest) nofun h'.2)).of_eq
      fun _ => by rw [compileAlt]; exact List.cons_ne_nil m rest
end


/-! ## Patterns -/

/-- The automaton of a well-formed tree accepts from a position exactly when the tree spans
from there. It is the tree between the records of group 0, before the accepting state. -/
theorem accepts_compile_iff {parsed : Parsed} (h : parsed.node.WellFormed = true)
    (text : Array Char) (i : Nat) :
    Accepts parsed.compile.steps text (parsed.compile.start, i) ↔
      ∃ j, parsed.node.Spans text i j := by
  obtain ⟨hx, hleads⟩ := (builds_compileNode parsed.node h).saved 0 1 0 #[.accept]
    parsed.compile.start parsed.compile.steps rfl
  have hP := hleads parsed.compile.steps fun _ _ _ => rfl
  constructor
  · rintro ⟨n, hn⟩
    obtain ⟨j, hj, -⟩ := hP.within text n i hn
    exact ⟨j, hj⟩
  · rintro ⟨j, hj⟩
    have hdone : Accepts parsed.compile.steps text (0, j) :=
      ⟨0, .accept (by simpa [Accepting] using hx.getElem?_eq 0 (by simp))⟩
    exact hdone.of_reach (hP.reach text i j hj)

/-- A pattern whose tree is well formed matches a text exactly when its tree spans the text
from some position to another. -/
theorem Pattern.isMatch_iff {source : String} {re : Pattern} {parsed : Parsed}
    (hre : Pattern.compile source = .ok re) (hparse : parsePattern source = .ok parsed)
    (h : parsed.node.WellFormed = true) (text : String) :
    re.isMatch text = true ↔ ∃ i ≤ text.length, ∃ j, parsed.node.Spans text.toList.toArray i j := by
  have hprog : re.program = parsed.compile := by
    simp only [Pattern.compile, hparse, bind, Except.bind] at hre
    split at hre
    · cases hre
      rfl
    · cases hre
  simp only [Pattern.isMatch, Pattern.captures, Option.isSome_map, hprog]
  rw [search_isSome_iff]
  simp only [List.size_toArray, String.length_toList]
  exact exists_congr fun i => and_congr_right fun _ => accepts_compile_iff h _ i

end DumpTopology.Regex
