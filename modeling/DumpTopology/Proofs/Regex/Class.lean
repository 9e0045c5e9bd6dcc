import DumpTopology.Regex.Class

/-!
# Code sets hold exactly the members of their classes

A class is compiled to a code set: the ascending boundaries where membership changes, `lo`
and `hi + 1` for each range `[lo, hi]`. The code set counts by binary search the boundaries at
or below a code point (`countAtMost_iff`: the count is the point where the ascending
boundaries pass it), and holds the code point when that count is odd. When the ranges are
ascending and apart, as those of canonical classes are, an odd count means the code point
lies in a range (`countP_boundsOf`), so the code set holds exactly the class's members
(`CharClass.contains_toCodeSet`).
-/
namespace DumpTopology

namespace Text.CodeSet

/-- Binary search: when the boundaries below `lo` are at most `c` and those from `hi` on are
above it, the count is where the boundaries pass `c`. -/
theorem countAtMost_iff {bounds : Array Nat} (c : Nat)
    (hsort : ∀ i j, i ≤ j → j < bounds.size → bounds[i]?.getD 0 ≤ bounds[j]?.getD 0)
    (lo hi : Nat) (hle : lo ≤ hi) (hhi : hi ≤ bounds.size)
    (hbelow : ∀ i < lo, bounds[i]?.getD 0 ≤ c)
    (habove : ∀ i, hi ≤ i → i < bounds.size → c < bounds[i]?.getD 0) :
    countAtMost bounds c lo hi ≤ bounds.size ∧
      ∀ i < bounds.size, (bounds[i]?.getD 0 ≤ c ↔ i < countAtMost bounds c lo hi) := by
  fun_induction countAtMost bounds c lo hi with
  | case1 lo hi h mid hmid ih =>
    -- the middle boundary is at most `c`, so are all before it
    refine ih (by omega) hhi (fun i hi' => ?_) habove
    rcases Nat.lt_or_ge i lo with hlt | hge
    · exact hbelow i hlt
    · exact Nat.le_trans (hsort i mid (by omega) (by omega)) hmid
  | case2 lo hi h mid hmid ih =>
    -- the middle boundary is above `c`, so are all after it
    refine ih (by omega) (by omega) hbelow (fun i hi' hsize => ?_)
    rcases Nat.lt_or_ge i hi with hlt | hge
    · exact Nat.lt_of_lt_of_le (Nat.lt_of_not_le hmid) (hsort mid i hi' hsize)
    · exact habove i hge hsize
  | case3 lo hi h =>
    refine ⟨by omega, fun i hi' => ⟨fun hc => ?_, fun hlt => hbelow i hlt⟩⟩
    exact Nat.lt_of_not_le fun hge =>
      Nat.lt_irrefl c (Nat.lt_of_lt_of_le (habove i (by omega) hi') hc)

/-- A list whose elements at most `c` are exactly its first `k` has `k` of them. -/
theorem countP_le_eq_of_prefix {c : Nat} :
    ∀ (l : List Nat) (k : Nat), k ≤ l.length → (∀ i < l.length, (l[i]?.getD 0 ≤ c ↔ i < k)) →
      l.countP (· ≤ c) = k
  | [], k, hk, _ => by simp at hk; simp [hk]
  | x :: xs, 0, _, h => by
    have hx : ¬ x ≤ c := fun hx => Nat.lt_irrefl 0 ((h 0 (by simp)).mp (by simpa using hx))
    rw [List.countP_cons, countP_le_eq_of_prefix xs 0 (Nat.zero_le _)
      (fun i hi => by simpa using h (i + 1) (by simpa using hi))]
    simp [hx]
  | x :: xs, k + 1, hk, h => by
    have hx : x ≤ c := by simpa using (h 0 (by simp)).mpr (Nat.succ_pos k)
    rw [List.countP_cons, countP_le_eq_of_prefix xs k (by simpa using hk)
      (fun i hi => by simpa using h (i + 1) (by simpa using hi))]
    simp [hx]

/-- For ascending boundaries, a code point is a member exactly when an odd number of
boundaries lie at or below it. -/
theorem containsCode_iff {s : CodeSet} (hsort : s.bounds.toList.Pairwise (· ≤ ·)) (c : Nat) :
    s.containsCode c = true ↔ s.bounds.toList.countP (· ≤ c) % 2 = 1 := by
  have hsort' : ∀ i j, i ≤ j → j < s.bounds.size →
      s.bounds[i]?.getD 0 ≤ s.bounds[j]?.getD 0 := by
    intro i j hij hj
    rcases Nat.eq_or_lt_of_le hij with rfl | hlt
    · exact Nat.le_refl _
    · have := List.pairwise_iff_getElem.mp hsort i j (by simp; omega) (by simpa using hj) hlt
      simpa [Array.getElem?_eq_getElem (Nat.lt_trans hlt hj), Array.getElem?_eq_getElem hj]
        using this
  obtain ⟨hle, hiff⟩ := countAtMost_iff c hsort' 0 s.bounds.size (Nat.zero_le _) (Nat.le_refl _)
    (fun _ h => absurd h (Nat.not_lt_zero _)) (fun _ h h' => absurd h' (Nat.not_lt_of_le h))
  have hcount := countP_le_eq_of_prefix s.bounds.toList _ (by simpa using hle)
    (fun i hi => by simpa using hiff i (by simpa using hi))
  rw [containsCode, ← hcount]
  simp

end Text.CodeSet

namespace Regex

/-- Ranges in ascending order, each holding a code point and each apart from every later one
by a gap. -/
def separated : List (Nat × Nat) → Bool
  | [] => true
  | r :: rest => decide (r.1 ≤ r.2) && rest.all (fun s => decide (r.2 + 1 < s.1)) && separated rest

/-- The boundaries of ranges: where membership starts and where it stops. -/
def boundsOf (rs : List (Nat × Nat)) : List Nat := rs.flatMap fun r => [r.1, r.2 + 1]

theorem boundsOf_cons (r : Nat × Nat) (rest : List (Nat × Nat)) :
    boundsOf (r :: rest) = r.1 :: (r.2 + 1) :: boundsOf rest := rfl

theorem separated_cons {r : Nat × Nat} {rest : List (Nat × Nat)} :
    separated (r :: rest) = true ↔
      r.1 ≤ r.2 ∧ (∀ s ∈ rest, r.2 + 1 < s.1) ∧ separated rest = true := by
  simp [separated, and_assoc]

theorem le_of_mem_separated {rs : List (Nat × Nat)} {s : Nat × Nat} (h : separated rs = true)
    (hs : s ∈ rs) : s.1 ≤ s.2 := by
  induction rs with
  | nil => cases hs
  | cons r rest ih =>
    obtain ⟨hr, -, hrest⟩ := separated_cons.mp h
    rcases List.mem_cons.mp hs with rfl | hs
    · exact hr
    · exact ih hrest hs

/-- Every boundary of separated ranges lies above a point below all their starts. -/
theorem lt_of_mem_boundsOf {rs : List (Nat × Nat)} {x n : Nat} (h : separated rs = true)
    (hlt : ∀ s ∈ rs, n < s.1) (hx : x ∈ boundsOf rs) : n < x := by
  obtain ⟨s, hs, hx⟩ := List.mem_flatMap.mp hx
  have := le_of_mem_separated h hs
  have := hlt s hs
  simp only [List.mem_cons, List.not_mem_nil, or_false] at hx
  omega

theorem pairwise_boundsOf {rs : List (Nat × Nat)} (h : separated rs = true) :
    (boundsOf rs).Pairwise (· ≤ ·) := by
  induction rs with
  | nil => exact List.Pairwise.nil
  | cons r rest ih =>
    obtain ⟨hr, hgap, hrest⟩ := separated_cons.mp h
    have habove : ∀ x ∈ boundsOf rest, r.2 + 1 < x := fun _ hx => lt_of_mem_boundsOf hrest hgap hx
    rw [boundsOf_cons]
    refine List.Pairwise.cons (fun x hx => ?_) (List.Pairwise.cons (fun x hx => ?_) (ih hrest))
    · rcases List.mem_cons.mp hx with rfl | hx
      · omega
      · have := habove x hx
        omega
    · exact Nat.le_of_lt (habove x hx)

/-- The parity of the boundaries at most `c` says whether `c` lies in a range. -/
theorem countP_boundsOf {rs : List (Nat × Nat)} (h : separated rs = true) (c : Nat) :
    (boundsOf rs).countP (· ≤ c) % 2 = 1 ↔ ∃ r ∈ rs, r.1 ≤ c ∧ c ≤ r.2 := by
  induction rs with
  | nil => simp [boundsOf]
  | cons r rest ih =>
    obtain ⟨hr, hgap, hrest⟩ := separated_cons.mp h
    rw [boundsOf_cons, List.countP_cons, List.countP_cons]
    simp only [List.mem_cons, exists_eq_or_imp]
    rcases Nat.lt_or_ge r.2 c with hc | hc
    · -- past this range: it adds two boundaries and cannot hold `c`
      rw [← ih hrest]
      simp only [decide_eq_true_eq]
      rw [if_pos (by omega), if_pos (by omega)]
      omega
    · -- at most its end: no later boundary counts
      have hnone : (boundsOf rest).countP (· ≤ c) = 0 :=
        List.countP_eq_zero.mpr fun x hx => by
          have := lt_of_mem_boundsOf hrest hgap hx
          simp only [decide_eq_true_eq]
          omega
      have hlater : ¬ ∃ s ∈ rest, s.1 ≤ c ∧ c ≤ s.2 := fun ⟨s, hs, h1, _⟩ => by
        have := hgap s hs
        omega
      simp only [hnone, hlater, or_false, decide_eq_true_eq]
      rw [if_neg (by omega)]
      by_cases h1 : r.1 ≤ c
      · simp [h1, hc]
      · simp [h1]

/-- A class with separated ranges: its code set holds exactly its members. -/
theorem CharClass.contains_toCodeSet {cls : CharClass} (h : separated cls.ranges = true)
    (c : Char) : cls.toCodeSet.contains c = cls.contains c.toNat := by
  have hbounds : cls.toCodeSet.bounds.toList = boundsOf cls.ranges := rfl
  apply Bool.eq_iff_iff.mpr
  rw [Text.CodeSet.contains, Text.CodeSet.containsCode_iff (hbounds ▸ pairwise_boundsOf h),
    hbounds, countP_boundsOf h]
  simp [CharClass.contains]

end Regex

end DumpTopology
