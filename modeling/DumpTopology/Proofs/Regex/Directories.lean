import DumpTopology.Proofs.Regex.Template
import DumpTopology.Proofs.Regex.Captures
import DumpTopology.Proofs.Regex.Class
import DumpTopology.Proofs.Text.ByteOrder

/-!
# Patterns that read past directories

Paths are read by patterns of two shapes. An anchored pattern may begin with the loop
`(?:[^/]*/)*` that reads whole directory names (`ReadsDirectories`); an unanchored one may begin
with `.*` (`ReadsAnyPrefix`). Suppose the rest of the pattern tests no position but the end
(`EndAnchoredBelow`), and cannot accept from inside a directory name that has no `.`, because
it stays among states that never read `/` (`Traps`). Then the pattern treats a path of such
directories followed by a name without `/` as it treats the name alone. The anchored pattern
finds the same groups, moved by the directories' length (`ReadsDirectories.search_append`). The
unanchored one matches the path exactly when it matches the name
(`ReadsAnyPrefix.search_append_isSome`).

The loop prefers another directory to the rest of the pattern. So the first run that accepts
reads every directory in the loop (`DirectoryLoop.directories`), unless the rest of the pattern
can accept from inside one. That is where a `.` in a directory name matters: `([^/.]+)\.(.*?)`
can start inside the directory and read on across the `/`.

Each condition has a decision procedure (`trapsDotless`, `rankedCheck`, `endAnchoredBelowCheck`),
so that it can be checked on a compiled program.
-/
namespace DumpTopology.Regex

/-! ## Code sets of the loop -/

/-- A code set of one range holds the code points of that range. -/
theorem contains_range {a b : Nat} (hab : a ≤ b) (ch : Char) :
    (⟨#[a, b]⟩ : Text.CodeSet).contains ch = true ↔ a ≤ ch.toNat ∧ ch.toNat < b := by
  rw [Text.CodeSet.contains, Text.CodeSet.containsCode_iff (by simp [hab])]
  simp only [List.countP_cons, List.countP_nil, decide_eq_true_eq]
  split_ifs <;> simp <;> omega

/-- Every character but `/`. -/
def notSlash : Text.CodeSet := ⟨#[0, 47, 48, 1114112]⟩

/-- The character `/`. -/
def slashOnly : Text.CodeSet := ⟨#[47, 48]⟩

/-- The character `.`. -/
def dotOnly : Text.CodeSet := ⟨#[46, 47]⟩

theorem contains_notSlash (ch : Char) : notSlash.contains ch = true ↔ ch ≠ '/' := by
  rw [notSlash, Text.CodeSet.contains, Text.CodeSet.containsCode_iff (by decide), Ne,
    ← Char.toNat_inj]
  have hlt := Text.toNat_lt_of_char ch
  have h47 : ('/' : Char).toNat = 47 := rfl
  simp only [List.countP_cons, List.countP_nil, decide_eq_true_eq, h47]
  split_ifs <;> simp <;> omega

theorem contains_slashOnly (ch : Char) : slashOnly.contains ch = true ↔ ch = '/' := by
  have h47 : ('/' : Char).toNat = 47 := rfl
  rw [slashOnly, contains_range (by omega), ← Char.toNat_inj, h47]
  omega

theorem contains_dotOnly (ch : Char) : dotOnly.contains ch = true ↔ ch = '.' := by
  have h46 : ('.' : Char).toNat = 46 := rfl
  rw [dotOnly, contains_range (by omega), ← Char.toNat_inj, h46]
  omega

theorem notSlash_contains_slash : notSlash.contains '/' = false :=
  Bool.eq_false_iff.mpr fun h => (contains_notSlash '/').mp h rfl

theorem slashOnly_contains {ch : Char} (h : ch ≠ '/') : slashOnly.contains ch = false :=
  Bool.eq_false_iff.mpr fun h' => h ((contains_slashOnly ch).mp h')

/-! ## Directories in a text -/

/-- The characters of directories: each name followed by `/`. -/
def dirChars (dirs : List (List Char)) : List Char := dirs.flatMap (· ++ ['/'])

@[simp] theorem dirChars_nil : dirChars [] = [] := rfl

theorem dirChars_cons (seg : List Char) (dirs : List (List Char)) :
    dirChars (seg :: dirs) = seg ++ '/' :: dirChars dirs := by
  simp [dirChars]

/-- Neither `/` nor `.`: what a directory name in the loop may hold. -/
def Dotless (ch : Char) : Prop := ch ≠ '/' ∧ ch ≠ '.'

section Text

variable {text : Array Char}

theorem getElem?_of_drop_eq_cons {j : Nat} {ch : Char} {rest : List Char}
    (h : text.toList.drop j = ch :: rest) :
    text[j]? = some ch ∧ text.toList.drop (j + 1) = rest := by
  constructor
  · rw [← Array.getElem?_toList, ← Nat.add_zero j, ← List.getElem?_drop, h]
    rfl
  · rw [← List.drop_drop, h]
    rfl

theorem getElem?_of_drop_eq_nil {j : Nat} (h : text.toList.drop j = []) : text[j]? = none := by
  rw [List.drop_eq_nil_iff, Array.length_toList] at h
  exact Array.getElem?_eq_none h

theorem getElem?_of_drop_eq_append {j : Nat} {l tail : List Char}
    (h : text.toList.drop j = l ++ tail) {i : Nat} (hi : i < l.length) : text[j + i]? = l[i]? := by
  rw [← Array.getElem?_toList, ← List.getElem?_drop, h, List.getElem?_append_left hi]

theorem drop_of_drop_eq_append {j : Nat} {l tail : List Char}
    (h : text.toList.drop j = l ++ tail) : text.toList.drop (j + l.length) = tail := by
  rw [← List.drop_drop, h, List.drop_left]

/-- Inside directories without `/` or `.` in their names, every position is followed by a `/`
before the directories end, with nothing but such characters in between. -/
theorem exists_slash_ahead {segs : List (List Char)} {j : Nat} {rest : List Char}
    (hsegs : ∀ seg ∈ segs, ∀ ch ∈ seg, Dotless ch)
    (hdrop : text.toList.drop j = dirChars segs ++ rest) {p : Nat} (hjp : j ≤ p)
    (hp : p < j + (dirChars segs).length) :
    ∃ e, p ≤ e ∧ e < j + (dirChars segs).length ∧ text[e]? = some '/' ∧
      ∀ k, p ≤ k → k < e → ∃ ch, text[k]? = some ch ∧ Dotless ch := by
  induction segs generalizing j with
  | nil => simp at hp; omega
  | cons seg segs ih =>
    rw [dirChars_cons, List.append_assoc] at hdrop
    have hlen : (dirChars (seg :: segs)).length = seg.length + 1 + (dirChars segs).length := by
      simp [dirChars_cons]
      omega
    rw [hlen] at hp ⊢
    by_cases hin : p ≤ j + seg.length
    · -- the position is in the first name, or at its `/`
      refine ⟨j + seg.length, hin, by omega, ?_, fun k hpk hke => ?_⟩
      · exact (getElem?_of_drop_eq_cons (drop_of_drop_eq_append hdrop)).1
      · obtain ⟨i, rfl⟩ : ∃ i, k = j + i := ⟨k - j, by omega⟩
        rw [getElem?_of_drop_eq_append hdrop (by omega)]
        have hi : i < seg.length := by omega
        exact ⟨seg[i], by simp [hi], hsegs seg List.mem_cons_self _ (List.getElem_mem hi)⟩
    · have hdrop' := (getElem?_of_drop_eq_cons (drop_of_drop_eq_append hdrop)).2
      obtain ⟨e, hpe, he, hslash, hbetween⟩ :=
        ih (fun s hs => hsegs s (.tail _ hs)) hdrop' (by omega) (by omega)
      exact ⟨e, hpe, by omega, hslash, hbetween⟩

end Text

/-! ## The directory loop -/

/-- The loop `(?:[^/]*/)*`: at `c` a choice between another directory, from `e`, and the rest
of the pattern at `z`; a name is read at `x`, one character but `/` at a time, until `y` reads
the `/` and returns to `c`. -/
structure DirectoryLoop (steps : Array Step) (c e x y z : Nat) : Prop where
  choice : steps[c]? = some (.split e z)
  inner : steps[e]? = some (.split x y)
  name : steps[x]? = some (.chars notSlash e)
  slash : steps[y]? = some (.chars slashOnly c)

namespace DirectoryLoop

variable {steps : Array Step} {text : Array Char} {c e x y z : Nat}
  (hd : DirectoryLoop steps c e x y z)
include hd

/-- From inside a name the loop reads to its `/`, and has the outcome it has past it. -/
theorem segment {r : Option (List (Nat × Nat))} {seg : List Char} (hseg : '/' ∉ seg) :
    ∀ {j : Nat} {tail : List Char}, text.toList.drop j = seg ++ '/' :: tail →
      FirstRun steps text (c, j + seg.length + 1) r → FirstRun steps text (e, j) r := by
  induction seg with
  | nil =>
    intro j tail hdrop hc
    obtain ⟨hj, -⟩ := getElem?_of_drop_eq_cons hdrop
    refine .splitSecond hd.inner (.charsFail hd.name fun ch hch => ?_)
      (.chars hd.slash hj ((contains_slashOnly _).mpr rfl) hc)
    rw [hj] at hch
    cases hch
    exact notSlash_contains_slash
  | cons ch seg ih =>
    intro j tail hdrop hc
    obtain ⟨hj, hdrop'⟩ := getElem?_of_drop_eq_cons hdrop
    have hch : ch ≠ '/' := fun h => hseg (h ▸ List.mem_cons_self)
    have hrest : FirstRun steps text (e, j + 1) r :=
      ih (fun h => hseg (.tail _ h)) hdrop' (by simpa [Nat.add_assoc, Nat.add_comm 1] using hc)
    have hx : FirstRun steps text (x, j) r :=
      .chars hd.name hj ((contains_notSlash ch).mpr hch) hrest
    cases r with
    | some L => exact .splitFirst hd.inner hx
    | none =>
      refine .splitSecond hd.inner hx (.charsFail hd.slash fun ch' hch' => ?_)
      rw [hj] at hch'
      cases hch'
      exact slashOnly_contains hch

/-- With no `/` left, another directory does not accept. -/
theorem no_slash {rest : List Char} (hrest : '/' ∉ rest) :
    ∀ {j : Nat}, text.toList.drop j = rest → FirstRun steps text (e, j) none := by
  induction rest with
  | nil =>
    intro j hdrop
    have hj := getElem?_of_drop_eq_nil hdrop
    exact .splitSecond hd.inner (.charsFail hd.name (by simp [hj]))
      (.charsFail hd.slash (by simp [hj]))
  | cons ch rest ih =>
    intro j hdrop
    obtain ⟨hj, hdrop'⟩ := getElem?_of_drop_eq_cons hdrop
    have hch : ch ≠ '/' := fun h => hrest (h ▸ List.mem_cons_self)
    refine .splitSecond hd.inner
      (.chars hd.name hj ((contains_notSlash ch).mpr hch) (ih (fun h => hrest (.tail _ h)) hdrop'))
      (.charsFail hd.slash fun ch' hch' => ?_)
    rw [hj] at hch'
    cases hch'
    exact slashOnly_contains hch

/-- Where no `/` is left, the loop has the outcome of the rest of the pattern. -/
theorem of_rest {rest : List Char} (hrest : '/' ∉ rest) {o : Nat}
    (hdrop : text.toList.drop o = rest) {r : Option (List (Nat × Nat))}
    (hz : FirstRun steps text (z, o) r) : FirstRun steps text (c, o) r :=
  .splitSecond hd.choice (hd.no_slash hrest hdrop) hz

/-- The loop has the outcome it has past the directories, when the rest of the pattern does not
accept from inside them. The induction is on the directories. -/
theorem directories {r : Option (List (Nat × Nat))} {segs : List (List Char)}
    (hsegs : ∀ seg ∈ segs, '/' ∉ seg) :
    ∀ {j : Nat} {rest : List Char}, text.toList.drop j = dirChars segs ++ rest →
      (∀ p, j ≤ p → p < j + (dirChars segs).length → FirstRun steps text (z, p) none) →
      FirstRun steps text (c, j + (dirChars segs).length) r → FirstRun steps text (c, j) r := by
  induction segs with
  | nil =>
    intro j rest _ _ hc
    simpa using hc
  | cons seg segs ih =>
    intro j rest hdrop hz hc
    rw [dirChars_cons, List.append_assoc] at hdrop
    have hlen : (dirChars (seg :: segs)).length = seg.length + 1 + (dirChars segs).length := by
      simp [dirChars_cons]
      omega
    rw [hlen] at hz hc
    have hdrop' := (getElem?_of_drop_eq_cons (drop_of_drop_eq_append hdrop)).2
    -- past the first directory, then back through its name
    have hnext : FirstRun steps text (c, j + seg.length + 1) r :=
      ih (fun s hs => hsegs s (.tail _ hs)) hdrop'
        (fun p hp hp' => hz p (by omega) (by omega)) (by simpa [Nat.add_assoc] using hc)
    have he : FirstRun steps text (e, j) r :=
      hd.segment (hsegs seg List.mem_cons_self) hdrop hnext
    cases r with
    | some L => exact .splitFirst hd.choice he
    | none => exact .splitSecond hd.choice he (hz j (Nat.le_refl _) (by omega))

end DirectoryLoop

/-! ## Traps, decided -/

/-- Whether the states of `W` form a trap over characters that are neither `/` nor `.`, and
read no `/`. A state that reads only `.` may leave. -/
def trapsDotless (steps : Array Step) (W : List Nat) : Bool :=
  W.all fun s => match steps[s]? with
    | some .accept => false
    | some (.chars set next) => !set.contains '/' && (W.contains next || decide (set = dotOnly))
    | some (.split a b) => W.contains a && W.contains b
    | some (.look l next) => decide (l = .textEnd) || W.contains next
    | some (.save _ next) => W.contains next
    | none => true

section Trap

variable {steps : Array Step} {W : List Nat}

theorem traps_of_trapsDotless (h : trapsDotless steps W = true) :
    Traps steps (· ∈ W) Dotless := by
  intro s hs
  have hstep := List.all_eq_true.mp h s hs
  -- a missing state is settled by the check itself
  rcases hst : steps[s]? with _ | ⟨set, next⟩ | ⟨a, b⟩ | ⟨l, next⟩ | ⟨slot, next⟩ | _ <;>
    simp only [hst] at hstep ⊢
  · intro ch hch hin
    simp only [Bool.and_eq_true, Bool.or_eq_true, List.contains_iff_mem, decide_eq_true_eq]
      at hstep
    rcases hstep.2 with hnext | rfl
    · exact hnext
    · exact absurd ((contains_dotOnly ch).mp hin) hch.2
  · simpa using hstep
  · simpa only [Bool.or_eq_true, decide_eq_true_eq, List.contains_iff_mem] using hstep
  · simpa using hstep
  · cases hstep

theorem not_slash_of_trapsDotless (h : trapsDotless steps W = true) {s : Nat} (hs : s ∈ W)
    {set : Text.CodeSet} {next : Nat} (hst : steps[s]? = some (.chars set next)) :
    set.contains '/' = false := by
  have hstep := List.all_eq_true.mp h s hs
  simp only [hst, Bool.and_eq_true, Bool.not_eq_eq_eq_not, Bool.not_true] at hstep
  exact hstep.1

/-- A trap holding `z` does not accept from inside directories without `/` or `.` in their
names. -/
theorem not_accepts_inside {text : Array Char} (h : trapsDotless steps W = true) {z : Nat}
    (hz : z ∈ W) {segs : List (List Char)} (hsegs : ∀ seg ∈ segs, ∀ ch ∈ seg, Dotless ch)
    {j : Nat} {rest : List Char} (hdrop : text.toList.drop j = dirChars segs ++ rest) {p : Nat}
    (hjp : j ≤ p) (hp : p < j + (dirChars segs).length) : ¬ Accepts steps text (z, p) := by
  obtain ⟨e, hpe, -, hslash, hbetween⟩ := exists_slash_ahead hsegs hdrop hjp hp
  exact not_accepts_of_traps (traps_of_trapsDotless h) hslash
    (fun s _ _ hs hst => not_slash_of_trapsDotless h hs hst) hbetween hz hpe

end Trap

/-! ## Ranks and anchoring, decided -/

/-- The longest run of moves in place from a state, counted up to `fuel` moves. -/
def emptyDepth (steps : Array Step) : Nat → Nat → Nat
  | 0, _ => 0
  | fuel + 1, s => match steps[s]? with
    | some (.split a b) => max (emptyDepth steps fuel a) (emptyDepth steps fuel b) + 1
    | some (.look _ next) => emptyDepth steps fuel next + 1
    | some (.save _ next) => emptyDepth steps fuel next + 1
    | _ => 0

/-- Whether every move in place lowers `emptyDepth` at the program's size. -/
def rankedCheck (steps : Array Step) : Bool :=
  (List.range steps.size).all fun s =>
    let rank := emptyDepth steps steps.size
    match steps[s]? with
    | some (.split a b) => decide (rank a < rank s) && decide (rank b < rank s)
    | some (.look _ next) => decide (rank next < rank s)
    | some (.save _ next) => decide (rank next < rank s)
    | _ => true

theorem emptyRanked_of_rankedCheck {steps : Array Step} (h : rankedCheck steps = true) :
    EmptyRanked steps (emptyDepth steps steps.size) := by
  intro s
  by_cases hs : s < steps.size
  · have hstep := List.all_eq_true.mp h s (List.mem_range.mpr hs)
    rcases hst : steps[s]? with _ | ⟨set, next⟩ | ⟨a, b⟩ | ⟨l, next⟩ | ⟨slot, next⟩ | _ <;>
      simp_all
  · simp [Array.getElem?_eq_none (Nat.le_of_not_lt hs)]

/-- Whether the states up to `bound` lead among themselves and test only the end. -/
def endAnchoredBelowCheck (steps : Array Step) (bound : Nat) : Bool :=
  (List.range (bound + 1)).all fun s => Step.anchoredBelow bound steps[s]?

theorem endAnchoredBelow_of_check {steps : Array Step} {bound : Nat}
    (h : endAnchoredBelowCheck steps bound = true) : EndAnchoredBelow steps bound :=
  fun s hs => List.all_eq_true.mp h s (List.mem_range.mpr (by omega))

/-! ## Outcomes that do not accept -/

section Outcome

variable {steps : Array Step} {text : Array Char} {rank : Nat → Nat}

theorem firstRun_none_of_not_accepts (hrank : EmptyRanked steps rank) {q : Nat × Nat}
    (h : ¬ Accepts steps text q) : FirstRun steps text q none := by
  obtain ⟨res, hres⟩ : ∃ res, FirstRun steps text q res := FirstRun.exists_of_ranked hrank q
  cases res with
  | none => exact hres
  | some L => exact absurd (hres.isSome_iff.mp rfl) h

/-- Starts from which the program has no outcome leave the search to later starts. -/
theorem FirstFrom.none_of_forall {prog : Program} {start : Nat}
    (h : ∀ p, start ≤ p → p ≤ text.size → FirstRun prog.steps text (prog.start, p) none) :
    FirstFrom prog text start none := by
  induction hn : text.size + 1 - start generalizing start with
  | zero => exact .past (by omega)
  | succ n ih =>
    exact .next (by omega) (h start (Nat.le_refl _) (by omega))
      (ih (fun p hp hp' => h p (by omega) hp') (by omega))

end Outcome

/-! ## Anchored patterns that read directories -/

/-- A program that records the start of its match, is anchored at the start of the text, and
then reads directories. -/
structure ReadsDirectories (prog : Program) (l c e x y z : Nat) : Prop
    extends DirectoryLoop prog.steps c e x y z where
  start : prog.steps[prog.start]? = some (.save 0 l)
  anchor : prog.steps[l]? = some (.look .textStart c)

namespace ReadsDirectories

variable {prog : Program} {text : Array Char} {rank : Nat → Nat} {l c e x y z : Nat}
  (hr : ReadsDirectories prog l c e x y z)
include hr

/-- Only the first start can match, and the search reports its outcome from the loop. -/
theorem search_eq (hrank : EmptyRanked prog.steps rank) {res : Option (List (Nat × Nat))}
    (h : FirstRun prog.steps text (c, 0) res) :
    prog.search text = res.map fun L => applySaves ((0, 0) :: L) (Array.replicate prog.slots none) := by
  have hfirst : FirstRun prog.steps text (prog.start, 0) (res.map ((0, 0) :: ·)) :=
    .save hr.start (.look hr.anchor (by simp [Look.holds]) h)
  have hlater : FirstFrom prog text 1 none := by
    refine FirstFrom.none_of_forall fun p hp _ => ?_
    have hfail : FirstRun prog.steps text (l, p) none :=
      .lookFail hr.anchor (by simp [Look.holds]; omega)
    simpa using FirstRun.save hr.start hfail
  have hfrom : FirstFrom prog text 0 (res.map ((0, 0) :: ·)) := by
    cases res with
    | some L => exact .found (Nat.zero_le _) hfirst
    | none => exact .next (Nat.zero_le _) hfirst hlater
  rw [Program.search_eq hrank hfrom, Option.map_map]
  rfl

/-- After directories without `/` or `.` in their names, a name without `/` has the groups it
has alone, moved by the directories' length. -/
theorem search_append (hrank : EmptyRanked prog.steps rank) (hb : EndAnchoredBelow prog.steps z)
    {W : List Nat} (hW : trapsDotless prog.steps W = true) (hz : z ∈ W)
    {segs : List (List Char)} (hsegs : ∀ seg ∈ segs, ∀ ch ∈ seg, Dotless ch)
    {name : List Char} (hname : '/' ∉ name) :
    Option.Rel (Slots.ShiftedBy (dirChars segs).length)
      (prog.search (dirChars segs ++ name).toArray) (prog.search name.toArray) := by
  have hsize : (dirChars segs).toArray.size = (dirChars segs).length := List.size_toArray
  obtain ⟨r, hrS⟩ : ∃ r, FirstRun prog.steps name.toArray (z, 0) r :=
    FirstRun.exists_of_ranked hrank _
  -- the rest of the pattern reads the name alike after the directories
  have hrT := hrS.shift hb (dirChars segs).toArray (Nat.le_refl z)
  rw [List.append_toArray, hsize, Nat.add_zero] at hrT
  have hcS : FirstRun prog.steps name.toArray (c, 0) r :=
    hr.of_rest hname (by simp) hrS
  have hcT : FirstRun prog.steps (dirChars segs ++ name).toArray (c, 0)
      (r.map (shiftSaves (dirChars segs).length)) := by
    have hdrop : (dirChars segs ++ name).toArray.toList.drop 0 = dirChars segs ++ name := by simp
    refine hr.directories (fun seg hseg h => (hsegs seg hseg '/' h).1 rfl) hdrop
      (fun p _ hp => firstRun_none_of_not_accepts hrank
        (not_accepts_inside hW hz hsegs hdrop (Nat.zero_le _) hp)) ?_
    exact hr.of_rest hname (by simp) (by simpa using hrT)
  rw [hr.search_eq hrank hcT, hr.search_eq hrank hcS]
  cases r with
  | none => exact .none
  | some L =>
    refine .some ?_
    simp only [applySaves_cons]
    exact ((Slots.shiftedBy_replicate _ _).setIfInBounds_zero _ _).applySaves L

end ReadsDirectories

/-! ## Unanchored patterns -/

/-- A program that records the start of its match and begins with a loop like `.*`: at `c` a
choice between reading a character at `x` and the rest of the pattern at `z`. -/
structure ReadsAnyPrefix (prog : Program) (c x z : Nat) : Prop where
  start : prog.steps[prog.start]? = some (.save 0 c)
  choice : prog.steps[c]? = some (.split x z)
  any : ∃ set, prog.steps[x]? = some (.chars set c)

namespace ReadsAnyPrefix

variable {prog : Program} {text : Array Char} {c x z : Nat} (hp : ReadsAnyPrefix prog c x z)
include hp

theorem accepts_start_iff {pos : Nat} :
    Accepts prog.steps text (prog.start, pos) ↔ Accepts prog.steps text (c, pos) :=
  accepts_iff_of_successors_eq (by simp [Accepting, hp.start]) (by simp [successors, hp.start])

/-- A run of the loop that accepts, where the rest of the pattern does not accept before `o`,
goes on to accept from the loop at `o`. The induction is on the distance to `o`. -/
theorem accepts_loop_forward {j o : Nat} (hz : ∀ p, j ≤ p → p < o → ¬ Accepts prog.steps text (z, p))
    (hjo : j ≤ o) (h : Accepts prog.steps text (c, j)) : Accepts prog.steps text (c, o) := by
  induction hn : o - j generalizing j with
  | zero => rwa [show o = j by omega]
  | succ n ih =>
    obtain ⟨set, hx⟩ := hp.any
    rcases (accepts_iff_of_split hp.choice).mp h with hacc | hacc
    · -- one more character of the loop
      refine ih (j := j + 1) (fun p hp' hp'' => hz p (by omega) hp'') (by omega) ?_ (by omega)
      rcases hc : text[j]? with _ | ch
      · exact absurd hacc (not_accepts_of_successors_eq_nil (by simp [Accepting, hx])
          (by simp [successors, hx, hc]))
      · by_cases hin : set.contains ch = true
        · exact (accepts_iff_of_successors_eq (by simp [Accepting, hx])
            (by simp [successors, hx, hc, hin])).mp hacc
        · exact absurd hacc (not_accepts_of_successors_eq_nil (by simp [Accepting, hx])
            (by simp [successors, hx, hc, hin]))
    · exact absurd hacc (hz j (Nat.le_refl _) (by omega))

/-- After directories without `/` or `.` in their names, the pattern matches a name exactly
when it matches the name alone. -/
theorem search_append_isSome {rank : Nat → Nat} (hrank : EmptyRanked prog.steps rank)
    {bound : Nat} (hb : EndAnchoredBelow prog.steps bound) (hstart : prog.start ≤ bound)
    {W : List Nat} (hW : trapsDotless prog.steps W = true) (hz : z ∈ W)
    {segs : List (List Char)} (hsegs : ∀ seg ∈ segs, ∀ ch ∈ seg, Dotless ch) (name : List Char) :
    (prog.search (dirChars segs ++ name).toArray).isSome =
      (prog.search name.toArray).isSome := by
  have hsize : (dirChars segs).toArray.size = (dirChars segs).length := List.size_toArray
  have hshift : ∀ i, Accepts prog.steps (dirChars segs ++ name).toArray
      (prog.start, (dirChars segs).length + i) ↔ Accepts prog.steps name.toArray (prog.start, i) := by
    intro i
    rw [← List.append_toArray, ← hsize]
    exact accepts_append_iff hrank hb hstart _ i
  have hdrop : (dirChars segs ++ name).toArray.toList.drop 0 = dirChars segs ++ name := by simp
  apply Bool.eq_iff_iff.mpr
  rw [search_isSome_iff, search_isSome_iff]
  constructor
  · rintro ⟨k, hk, hacc⟩
    by_cases hko : (dirChars segs).length ≤ k
    · obtain ⟨i, rfl⟩ : ∃ i, k = (dirChars segs).length + i := ⟨k - (dirChars segs).length, by omega⟩
      exact ⟨i, by simp at hk ⊢; omega, (hshift i).mp hacc⟩
    · -- a start inside the directories reads through them in the loop
      have hloop := hp.accepts_loop_forward (o := (dirChars segs).length)
        (fun p _ hp' => not_accepts_inside hW hz hsegs hdrop (Nat.zero_le _) (by omega))
        (Nat.le_of_not_le hko) (hp.accepts_start_iff.mp hacc)
      exact ⟨0, Nat.zero_le _, (hshift 0).mp (hp.accepts_start_iff.mpr hloop)⟩
  · rintro ⟨i, hi, hacc⟩
    exact ⟨(dirChars segs).length + i, by simp at hi ⊢; omega, (hshift i).mpr hacc⟩

end ReadsAnyPrefix

end DumpTopology.Regex
