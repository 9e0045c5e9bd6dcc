import DumpTopology.Regex.Parse

/-!
# Reading patterns under the default flags

One equation for each construct that the reading loop meets with the default flags: a plain
character, an escaped one, the class `[^/]`, `.`, `^` and `$`, the repetitions `*` and `*?`,
the openings `(?:` and `(?P<name>`, a closing `)`, and the end of the pattern. Each takes one
turn of the loop. `ReadsThrough` chains the turns: a reading that succeeds from one position
and state passes through the next, and gives the same tree there.
-/
namespace DumpTopology.Regex

/-- The class of `[^/]`: every character but `/`. -/
def CharClass.notSlash : CharClass := ⟨[(0, 46), (48, maxCode)]⟩

/-- The class of `.` under the default flags: every character but a line break. -/
def CharClass.notNewline : CharClass := ⟨[(0, 9), (11, maxCode)]⟩

/-- Every successful reading from position `i` in state `st` is one from `j` in `st'`. -/
def ReadsThrough (p : Source) (i : Nat) (st : Reading) (j : Nat) (st' : Reading) : Prop :=
  ∀ fuel parsed, readFrom p fuel i st = .ok parsed → ∃ fuel', readFrom p fuel' j st' = .ok parsed

section Reading

variable {p : Source} {fuel i : Nat} {st : Reading}

-- The loop's equations, made once here rather than by each lemma below that opens a turn.
attribute [local simp] readFrom

theorem ReadsThrough.refl : ReadsThrough p i st i st := fun fuel _ h => ⟨fuel, h⟩

theorem ReadsThrough.trans {j k : Nat} {st' st'' : Reading} (h₁ : ReadsThrough p i st j st')
    (h₂ : ReadsThrough p j st' k st'') : ReadsThrough p i st k st'' := by
  intro fuel parsed h
  obtain ⟨fuel', h'⟩ := h₁ fuel parsed h
  exact h₂ fuel' parsed h'

theorem readFrom_zero : readFrom p 0 i st = refuse .nestLimit i i := by
  rw [readFrom]

/-- A turn of the loop that always goes on to `(j, st')`. -/
theorem ReadsThrough.of_step {j : Nat} {st' : Reading}
    (h : ∀ fuel, readFrom p (fuel + 1) i st = readFrom p fuel j st') : ReadsThrough p i st j st' := by
  intro fuel parsed hread
  cases fuel with
  | zero => simp [refuse] at hread
  | succ fuel => exact ⟨fuel, h fuel ▸ hread⟩

/-! ## One turn of the loop -/

theorem readFrom_literal {c : Char} (hf : st.flags = {}) (h₀ : p[i]? = some c)
    (hm : isMeta c = false) :
    readFrom p (fuel + 1) i st =
      readFrom p fuel (i + 1) (st.push (.chars (CharClass.single c.toNat))) := by
  -- a character without a meaning of its own takes none of the reading's special branches
  obtain ⟨h₁, h₂, h₃, h₄, h₅, h₆, h₇, h₈, h₉, h₁₀, h₁₁, h₁₂⟩ : c ≠ '(' ∧ c ≠ ')' ∧ c ≠ '|' ∧
      c ≠ '[' ∧ c ≠ '{' ∧ c ≠ '\\' ∧ c ≠ '.' ∧ c ≠ '^' ∧ c ≠ '$' ∧ c ≠ '*' ∧ c ≠ '+' ∧
      c ≠ '?' := by
    refine ⟨?_, ?_, ?_, ?_, ?_, ?_, ?_, ?_, ?_, ?_, ?_, ?_⟩ <;> (rintro rfl; simp [isMeta] at hm)
  rw [readFrom]
  simp only [hf, skipSpace, Bool.false_eq_true, if_false, h₀]
  split
  · rename_i hrep
    simp [h₁₀, h₁₁, h₁₂] at hrep
  · simp [literalNode, literalCode, bind, Except.bind, pure, Except.pure, Reading.push]

theorem readFrom_escape {c : Char} (hf : st.flags = {}) (h₀ : p[i]? = some '\\')
    (h₁ : p[i + 1]? = some c) (hm : isMeta c = true) :
    readFrom p (fuel + 1) i st =
      readFrom p fuel (i + 2) (st.push (.chars (CharClass.single c.toNat))) := by
  -- an escaped character with a meaning of its own is no digit and no escape letter, as its
  -- code point shows
  have hmem : c ∈ ['\\', '.', '+', '*', '?', '(', ')', '|', '[', ']', '{', '}', '^', '$', '#',
      '&', '-', '~'] := by
    simpa [isMeta] using hm
  have hcode : c.toNat ∈ [92, 46, 43, 42, 63, 40, 41, 124, 91, 93, 123, 125, 94, 36, 35, 38, 45,
      126] := by
    simpa using List.mem_map_of_mem (f := Char.toNat) hmem
  have hall : ∀ n ∈ [92, 46, 43, 42, 63, 40, 41, 124, 91, 93, 123, 125, 94, 36, 35, 38, 45, 126],
      ¬(48 ≤ n ∧ n ≤ 57) ∧ n ≠ 120 ∧ n ≠ 117 ∧ n ≠ 85 ∧ n ≠ 112 ∧ n ≠ 80 ∧ n ≠ 100 ∧ n ≠ 68 ∧
        n ≠ 115 ∧ n ≠ 83 ∧ n ≠ 119 ∧ n ≠ 87 := by
    decide
  obtain ⟨hd, hx, hu, hU, hp, hP, hd', hD, hs, hS, hw, hW⟩ := hall _ hcode
  have hesc : parseEscape p false i = .ok (.lit c false, i + 2) := by
    simp [parseEscape, h₁, ← Char.toNat_inj, Char.le_def, UInt32.le_iff_toNat_le, hx, hu, hU, hp,
      hP, hd', hD, hs, hS, hw, hW, isEscapable, hm]
    omega
  rw [readFrom]
  simp only [hf, skipSpace, Bool.false_eq_true, if_false, h₀]
  simp [hesc, primNode, literalNode, literalCode, bind, Except.bind, pure, Except.pure, Reading.push]

theorem readFrom_star {n : Node} {rest : List Piece} (hf : st.flags = {})
    (h₀ : p[i]? = some '*') (h₁ : p[i + 1]? ≠ some '?') (hp : st.pieces = .node n :: rest) :
    readFrom p (fuel + 1) i st =
      readFrom p fuel (i + 1) { st with pieces := .node (Node.repetition 0 none true n) :: rest } := by
  rw [readFrom]
  simp [hf, skipSpace, h₀, h₁, Reading.repeatLast, hp, bind, Except.bind]

theorem readFrom_lazyStar {n : Node} {rest : List Piece} (hf : st.flags = {})
    (h₀ : p[i]? = some '*') (h₁ : p[i + 1]? = some '?') (hp : st.pieces = .node n :: rest) :
    readFrom p (fuel + 1) i st =
      readFrom p fuel (i + 2) { st with pieces := .node (Node.repetition 0 none false n) :: rest } := by
  rw [readFrom]
  simp [hf, skipSpace, h₀, h₁, Reading.repeatLast, hp, bind, Except.bind]

theorem readFrom_dot (hf : st.flags = {}) (h₀ : p[i]? = some '.') :
    readFrom p (fuel + 1) i st =
      readFrom p fuel (i + 1) (st.push (.chars .notNewline)) := by
  rw [readFrom]
  simp [hf, skipSpace, h₀, dotNode, CharClass.notNewline, CharClass.single, CharClass.complement,
    CharClass.complementUpTo, CharClass.complementUpTo.go, maxCode, bind, Except.bind]

theorem readFrom_caret (hf : st.flags = {}) (h₀ : p[i]? = some '^') :
    readFrom p (fuel + 1) i st = readFrom p fuel (i + 1) (st.push (.look .textStart)) := by
  rw [readFrom]
  simp [hf, skipSpace, h₀]

theorem readFrom_dollar (hf : st.flags = {}) (h₀ : p[i]? = some '$') :
    readFrom p (fuel + 1) i st = readFrom p fuel (i + 1) (st.push (.look .textEnd)) := by
  rw [readFrom]
  simp [hf, skipSpace, h₀]

theorem readFrom_end (hf : st.flags = {}) (h₀ : p[i]? = none) (hs : st.stack = []) :
    readFrom p (fuel + 1) i st = .ok ⟨bodyNode st.alts st.pieces, st.groups, st.names.reverse⟩ := by
  rw [readFrom]
  simp [hf, skipSpace, h₀, hs, pure, Except.pure]

theorem readFrom_closePlain {o : OpenGroup} {rest : List OpenGroup} (hf : st.flags = {})
    (h₀ : p[i]? = some ')') (hs : st.stack = o :: rest) (hc : o.capture = none) :
    readFrom p (fuel + 1) i st =
      readFrom p fuel (i + 1) { st with
        flags := o.outer, pieces := .node (bodyNode st.alts st.pieces) :: o.pieces,
        alts := o.alts, stack := rest } := by
  rw [readFrom]
  simp [hf, skipSpace, h₀, hs, hc]

theorem readFrom_closeCapture {o : OpenGroup} {rest : List OpenGroup} {index : Nat}
    (hf : st.flags = {}) (h₀ : p[i]? = some ')') (hs : st.stack = o :: rest)
    (hc : o.capture = some index) :
    readFrom p (fuel + 1) i st =
      readFrom p fuel (i + 1) { st with
        flags := o.outer, pieces := .node (.group index (bodyNode st.alts st.pieces)) :: o.pieces,
        alts := o.alts, stack := rest } := by
  rw [readFrom]
  simp [hf, skipSpace, h₀, hs, hc]

theorem readFrom_openPlain (hf : st.flags = {}) (h₀ : p[i]? = some '(')
    (h₁ : p[i + 1]? = some '?') (h₂ : p[i + 2]? = some ':') :
    readFrom p (fuel + 1) i st =
      readFrom p fuel (i + 3) { st with
        pieces := [], alts := [], stack := ⟨st.pieces, st.alts, none, st.flags, i⟩ :: st.stack } := by
  have hsize : i + 2 < p.size := (Array.getElem?_eq_some_iff.mp h₂).1
  have hhead : groupHead p {} i = .ok (.plain {}, i + 3) := by
    have hlt : ¬ p.size ≤ i + 1 + 1 := by omega
    simp [groupHead, skipSpace, startsAt, h₁, h₂, flagItems, hlt, bind, Except.bind, pure,
      Except.pure, Flags.apply]
  rw [readFrom]
  simp [hf, skipSpace, h₀, hhead, bind, Except.bind]

theorem readFrom_notSlash (hf : st.flags = {}) (h₀ : p[i]? = some '[') (h₁ : p[i + 1]? = some '^')
    (h₂ : p[i + 2]? = some '/') (h₃ : p[i + 3]? = some ']') :
    readFrom p (fuel + 1) i st =
      readFrom p fuel (i + 4) (st.push (.chars .notSlash)) := by
  have hsize : i + 3 < p.size := (Array.getElem?_eq_some_iff.mp h₃).1
  have hopen : classOpen p false i = .ok (⟨none, .empty, true, i⟩, i + 2) := by
    have hlt₁ : ¬ p.size ≤ i + 1 := by omega
    have hlt₂ : ¬ p.size ≤ i + 1 + 1 := by omega
    simp [classOpen, skipSpace, leadingDashes, h₁, h₂, hlt₁, hlt₂]
  have hrange : classRange p {} (i + 2) = .ok (.single 47, i + 3) := by
    simp [classRange, classPrim, skipSpace, h₂, h₃, peekSpace, primClass, literalCode, bind,
      Except.bind, pure, Except.pure]
    omega
  have hloop : parseBracket.loop p {} (p.size + 2) (i + 2) [] ⟨none, .empty, true, i⟩ =
      .ok (.notSlash, i + 4) := by
    rw [parseBracket.loop]
    simp [skipSpace, h₂, classOpAt, hrange, bind, Except.bind]
    rw [parseBracket.loop]
    simp [skipSpace, h₃, settle, ClassFrame.value, ClassFrame.add, CharClass.union, CharClass.empty,
      CharClass.single, CharClass.canonical, CharClass.insertDesc, CharClass.pushRange,
      CharClass.complement, CharClass.complementUpTo, CharClass.complementUpTo.go,
      CharClass.notSlash, maxCode, pure, Except.pure, bind, Except.bind]
  rw [readFrom]
  simp only [hf, skipSpace, Bool.false_eq_true, if_false, h₀]
  simp [parseBracket, hopen, hloop, bind, Except.bind]

/-! ## Named groups -/

theorem getElem?_of_drop {l : List Char} (h : p.toList.drop i = l)
    (k : Nat) : p[i + k]? = l[k]? := by
  rw [← h, List.getElem?_drop, Array.getElem?_toList]

theorem drop_of_drop_append {pre post : List Char} (h : p.toList.drop i = pre ++ post) :
    p.toList.drop (i + pre.length) = post := by
  rw [← List.drop_drop, h, List.drop_left]

/-- Reading a group name that is followed by `>`: when it succeeds, it gives the name and
the position after the `>`. -/
theorem groupName_go_eq_ok {k : Nat} {name rest : List Char} {n : String} {e : Nat}
    (hgt : '>' ∉ name) :
    ∀ (j fuel : Nat) (pre : List Char), k + pre.length = j → p.toList.drop k = pre ++ name ++ '>' :: rest →
      groupName.go p k fuel j = .ok (n, e) →
      n = String.ofList (pre ++ name) ∧ e = j + name.length + 1 := by
  induction name with
  | nil =>
    intro j fuel pre hj hdrop hgo
    cases fuel with
    | zero => simp [groupName.go, refuse] at hgo
    | succ fuel =>
      have hc : p[j]? = some '>' := by
        rw [← hj, getElem?_of_drop hdrop]; simp
      simp only [groupName.go, hc] at hgo
      split at hgo
      · simp [refuse] at hgo
      · simp only [Except.ok.injEq, Prod.mk.injEq] at hgo
        obtain ⟨rfl, rfl⟩ := hgo
        refine ⟨?_, by simp⟩
        congr 1
        rw [Array.toList_extract, List.extract_eq_take_drop, hdrop]
        simp [← hj]
  | cons c name ih =>
    intro j fuel pre hj hdrop hgo
    have hcne : c ≠ '>' := fun h => hgt (h ▸ List.mem_cons_self)
    cases fuel with
    | zero => simp [groupName.go, refuse] at hgo
    | succ fuel =>
      have hc : p[j]? = some c := by
        rw [← hj, getElem?_of_drop hdrop]; simp
      simp only [groupName.go, hc] at hgo
      split at hgo
      · obtain ⟨h₁, h₂⟩ := ih (fun h => hgt (.tail _ h)) (j + 1) fuel (pre ++ [c])
          (by simp; omega) (by simpa using hdrop) hgo
        exact ⟨by simpa using h₁, by simp at h₂ ⊢; omega⟩
      · simp [refuse] at hgo

/-- A named group whose name is followed by `>` opens under that name with the next index.
The reading fails on a name already taken, so this holds of successful readings only. -/
theorem readsThrough_openNamed {name rest : List Char} (hf : st.flags = {})
    (hdrop : p.toList.drop i = "(?P<".toList ++ name ++ '>' :: rest) (hgt : '>' ∉ name) :
    ReadsThrough p i st (i + 5 + name.length) { st with
      pieces := [], alts := [], groups := st.groups + 1,
      names := (String.ofList name, st.groups + 1) :: st.names,
      stack := ⟨st.pieces, st.alts, some (st.groups + 1), st.flags, i⟩ :: st.stack } := by
  intro fuel parsed h
  cases fuel with
  | zero => simp [refuse] at h
  | succ fuel =>
  refine ⟨fuel, ?_⟩
  have hat := getElem?_of_drop hdrop
  have h₀ : p[i]? = some '(' := by simpa using hat 0
  have h₁ : p[i + 1]? = some '?' := by simpa using hat 1
  have h₂ : p[i + 2]? = some 'P' := by simpa using hat 2
  have h₃ : p[i + 3]? = some '<' := by simpa using hat 3
  have hhead : groupHead p {} i =
      groupName p (i + 4) >>= fun r => pure (.capture (some r.1), r.2) := by
    simp [groupHead, skipSpace, startsAt, h₁, h₂, h₃, bind, Except.bind]
  rw [readFrom] at h
  simp only [hf, skipSpace, Bool.false_eq_true, if_false, h₀] at h
  rcases hg : groupName p (i + 4) with err | ⟨n, k⟩
  · simp [hhead, hg, bind, Except.bind] at h
  · -- the name read is the placeholder's
    have hgo : groupName.go p (i + 4) (p.size + 1) (i + 4) = .ok (n, k) := by
      unfold groupName at hg
      split at hg
      · simp [refuse] at hg
      · exact hg
    have hdrop' : p.toList.drop (i + 4) = [] ++ name ++ '>' :: rest := by
      rw [show p.toList.drop (i + 4) = (p.toList.drop i).drop 4 by rw [List.drop_drop], hdrop]
      simp
    obtain ⟨rfl, rfl⟩ := groupName_go_eq_ok hgt (i + 4) (p.size + 1) [] (by simp) hdrop' hgo
    simp only [hhead, hg, bind, Except.bind, pure, Except.pure] at h
    split at h
    · simp [refuse] at h
    · simp only [List.nil_append] at h
      rw [show i + 4 + name.length + 1 = i + 5 + name.length by omega] at h
      rw [hf]
      exact h

end Reading

end DumpTopology.Regex
