import DumpTopology.Proofs.Regex.Prefixed
import DumpTopology.Regex.Template

/-!
# Group texts and templates

What a match hands to a template. A group's text is a stretch of the matched text
(`mem_text_of_get?`), so a template's expansion is made of the template's own characters and
characters of the text (`mem_expand`).

A template expands the same under two matches that agree on every group but the whole match
(`Captures.AgreeOnGroups`), as long as it does not mention the digit `0`
(`expand_eq_of_agreeOnGroups`). Two such matches arise from one run over a text and over the
same text after a prefix: the records of the second are those of the first moved by the
prefix's length (`Slots.ShiftedBy`), and every group but the whole match reads the same
characters (`agreeOnGroups_of_shiftedBy`).
-/
namespace DumpTopology.Regex

/-! ## Group texts -/

/-- A group's text is made of characters of the matched text. -/
theorem mem_text_of_get? {c : Captures} {i : Nat} {s : String} (h : c.get? i = some s)
    {x : Char} (hx : x ∈ s.toList) : x ∈ c.text.toList := by
  unfold Captures.get? at h
  split at h
  · cases h
    rw [String.toList_ofList, Array.toList_extract, List.extract] at hx
    exact List.mem_of_mem_drop (List.mem_of_mem_take hx)
  · cases h

theorem mem_text_of_named? {c : Captures} {n : String} {s : String} (h : c.named? n = some s)
    {x : Char} (hx : x ∈ s.toList) : x ∈ c.text.toList := by
  obtain ⟨i, -, hi⟩ := Option.bind_eq_some_iff.mp h
  exact mem_text_of_get? hi hx

/-- What a reference stands for is made of characters of the matched text. -/
theorem mem_text_of_mem_resolve {c : Captures} {name : List Char} {x : Char}
    (hx : x ∈ c.resolve name) : x ∈ c.text.toList := by
  have key : ∀ o : Option String, (∀ s, o = some s → x ∈ s.toList → x ∈ c.text.toList) →
      x ∈ (o.getD "").toList → x ∈ c.text.toList := by
    rintro (_ | s) ho hx
    · simp at hx
    · exact ho s rfl hx
  unfold Captures.resolve at hx
  split at hx
  · exact key _ (fun s hs => mem_text_of_get? hs) hx
  · exact key _ (fun s hs => mem_text_of_named? hs) hx

/-! ## Templates -/

/-- Expansion reads the match only through what the template's references stand for, and
every reference is a piece of the template. -/
theorem expandChars_congr {c c' : Captures} {n : Nat} {l : List Char}
    (h : ∀ name, name.Sublist l → c.resolve name = c'.resolve name) :
    c.expandChars n l = c'.expandChars n l := by
  fun_induction c.expandChars n l with
  | case1 => simp [Captures.expandChars]
  | case2 => simp [Captures.expandChars]
  | case3 fuel rest ih =>
    simp [Captures.expandChars,
      ih fun name hn => h name ((hn.trans (List.sublist_cons_self _ _)).cons _)]
  | case4 fuel rest k hk ih =>
    have hrest : rest.Sublist ('$' :: '{' :: rest) :=
      (List.sublist_cons_self _ _).trans (List.sublist_cons_self _ _)
    simp [Captures.expandChars, hk, h _ ((List.take_sublist _ _).trans hrest),
      ih fun name hn => h name ((hn.trans (List.drop_sublist _ _)).trans hrest)]
  | case5 fuel rest hk ih =>
    simp [Captures.expandChars, hk,
      ih fun name hn => h name (hn.cons _)]
  | case6 fuel rest h1 h2 name hn ih =>
    rw [Captures.expandChars.eq_5 c' fuel rest h1 h2, if_pos hn,
      ih fun name hn => h name (hn.cons _)]
  | case7 fuel rest h1 h2 name hn ih =>
    have hname : name.Sublist ('$' :: rest) := (List.takeWhile_sublist _).cons _
    rw [Captures.expandChars.eq_5 c' fuel rest h1 h2, if_neg hn, h name hname,
      ih fun name' hn' => h name' ((hn'.trans (List.drop_sublist _ _)).cons _)]
  | case8 fuel ch rest h1 h2 h3 ih =>
    rw [Captures.expandChars.eq_6 c' fuel ch rest h1 h2 h3,
      ih fun name hn => h name (hn.cons _)]

/-- Every character of an expansion is a character of the template or stands in what one of
the template's references stands for. -/
theorem mem_expandChars {c : Captures} {n : Nat} {l : List Char} {P : Char → Prop}
    (hl : ∀ x ∈ l, P x) (hres : ∀ name, ∀ x ∈ c.resolve name, P x) :
    ∀ x ∈ c.expandChars n l, P x := by
  fun_induction c.expandChars n l with
  | case1 => simp
  | case2 => simp
  | case3 fuel rest ih =>
    exact List.forall_mem_cons.mpr ⟨hl _ List.mem_cons_self,
      ih fun y hy => hl y (.tail _ (.tail _ hy))⟩
  | case4 fuel rest k hk ih =>
    intro x hx
    rcases List.mem_append.mp hx with hx | hx
    · exact hres _ x hx
    · exact ih (fun y hy => hl y (.tail _ (.tail _ (List.mem_of_mem_drop hy)))) x hx
  | case5 fuel rest hk ih =>
    exact List.forall_mem_cons.mpr ⟨hl _ List.mem_cons_self, ih fun y hy => hl y (.tail _ hy)⟩
  | case6 fuel rest h1 h2 name hn ih =>
    exact List.forall_mem_cons.mpr ⟨hl _ List.mem_cons_self, ih fun y hy => hl y (.tail _ hy)⟩
  | case7 fuel rest h1 h2 name hn ih =>
    intro x hx
    rcases List.mem_append.mp hx with hx | hx
    · exact hres _ x hx
    · exact ih (fun y hy => hl y (.tail _ (List.mem_of_mem_drop hy))) x hx
  | case8 fuel ch rest h1 h2 h3 ih =>
    exact List.forall_mem_cons.mpr ⟨hl _ List.mem_cons_self, ih fun y hy => hl y (.tail _ hy)⟩

/-- An expansion is made of the template's characters and characters of the matched text. -/
theorem mem_expand {c : Captures} {t : String} {x : Char} (hx : x ∈ (c.expand t).toList) :
    x ∈ t.toList ∨ x ∈ c.text.toList := by
  rw [Captures.expand, String.toList_ofList] at hx
  exact mem_expandChars (P := fun x => x ∈ t.toList ∨ x ∈ c.text.toList)
    (fun y hy => .inl hy) (fun _ y hy => .inr (mem_text_of_mem_resolve hy)) x hx

/-- A template without a reference expands to itself. -/
theorem expandChars_of_not_mem {c : Captures} :
    ∀ {n : Nat} {l : List Char}, '$' ∉ l → l.length < n → c.expandChars n l = l
  | 0, _, _, hn => absurd hn (Nat.not_lt_zero _)
  | _ + 1, [], _, _ => by simp [Captures.expandChars]
  | n + 1, ch :: rest, hl, hn => by
    have hch : ch ≠ '$' := fun he => hl (he ▸ List.mem_cons_self)
    rw [Captures.expandChars.eq_6 c n ch rest (fun _ he => absurd he hch)
      (fun _ he => absurd he hch) hch,
      expandChars_of_not_mem (fun h => hl (List.mem_cons_of_mem _ h))
        (by simp at hn; omega)]

theorem expand_of_not_mem {c : Captures} {t : String} (ht : '$' ∉ t.toList) : c.expand t = t := by
  rw [Captures.expand, expandChars_of_not_mem ht (by rw [String.length_toList]; omega),
    String.ofList_toList]

/-! ## Matches that agree on their groups -/

/-- Two matches that agree on every group but the whole match, named ones included. -/
def Captures.AgreeOnGroups (c c' : Captures) : Prop :=
  (∀ i, i ≠ 0 → c.get? i = c'.get? i) ∧ ∀ n, c.named? n = c'.named? n

theorem le_foldl_digits (l : List Char) (acc : Nat) :
    acc ≤ l.foldl (fun acc c => acc * 10 + (c.toNat - 48)) acc := by
  induction l generalizing acc with
  | nil => exact Nat.le_refl _
  | cons ch rest ih =>
    rw [List.foldl_cons]
    have hstep : acc ≤ acc * 10 + (ch.toNat - 48) := by omega
    exact Nat.le_trans hstep (ih _)

/-- A nonempty run of digits without `0` has a positive value. -/
theorem foldl_digits_pos {digits : List Char} (hne : digits ≠ [])
    (hall : digits.all Char.isDigit = true) (h0 : '0' ∉ digits) :
    0 < digits.foldl (fun acc c => acc * 10 + (c.toNat - 48)) 0 := by
  obtain ⟨d, rest, rfl⟩ := List.exists_cons_of_ne_nil hne
  have hd : d.isDigit = true := List.all_eq_true.mp hall d List.mem_cons_self
  have hd0 : d.toNat ≠ 48 := fun he => h0 (by
    rw [show d = '0' from Char.ext (UInt32.toNat_inj.mp he)]
    exact List.mem_cons_self)
  have hpos : 0 < d.toNat - 48 := by
    have h48 : ('0' : Char).toNat = 48 := rfl
    simp only [Char.isDigit, Bool.and_eq_true, decide_eq_true_eq, UInt32.le_iff_toNat_le,
      Char.toNat_val] at hd
    omega
  rw [List.foldl_cons]
  exact Nat.lt_of_lt_of_le (by omega) (le_foldl_digits rest _)

/-- A reference without the digit `0` is not to the whole match. -/
theorem refNumber?_ne_zero {name : List Char} (h : '0' ∉ name) : refNumber? name ≠ some 0 := by
  have key : ∀ digits : List Char, '0' ∉ digits →
      (if (digits.isEmpty || !digits.all Char.isDigit) = true then none
       else if digits.foldl (fun acc c => acc * 10 + (c.toNat - 48)) 0 < Nat.pow 2 64 then
         some (digits.foldl (fun acc c => acc * 10 + (c.toNat - 48)) 0) else none) ≠ some 0 := by
    intro digits h0 hz
    split at hz
    · cases hz
    · rename_i hok
      have hne : digits ≠ [] := fun he => hok (by simp [he])
      have hall : digits.all Char.isDigit = true := by
        cases ha : digits.all Char.isDigit
        · exact absurd (by simp [ha]) hok
        · rfl
      have hpos := foldl_digits_pos hne hall h0
      split at hz
      · simp only [Option.some.injEq] at hz
        omega
      · cases hz
  unfold refNumber?
  -- the digits are the name past an optional sign
  split
  · exact key _ fun h0 => h (.tail _ h0)
  · exact key _ h

/-- A reference without the digit `0` stands for the same text under agreeing matches. -/
theorem Captures.AgreeOnGroups.resolve_eq {c c' : Captures} (h : c.AgreeOnGroups c')
    {name : List Char} (hname : '0' ∉ name) : c.resolve name = c'.resolve name := by
  unfold Captures.resolve
  split
  · rename_i i hi
    have hi0 : i ≠ 0 := fun he => refNumber?_ne_zero hname (he ▸ hi)
    rw [h.1 i hi0]
  · rw [h.2]

/-- A template without the digit `0` expands the same under matches that agree on every group
but the whole match. -/
theorem expand_eq_of_agreeOnGroups {c c' : Captures} (h : c.AgreeOnGroups c') {t : String}
    (ht : '0' ∉ t.toList) : c.expand t = c'.expand t := by
  unfold Captures.expand
  rw [expandChars_congr fun name hn => h.resolve_eq fun h0 => ht (hn.subset h0)]

/-! ## Records moved by a prefix -/

/-- Slots whose records, slot `0` apart, are those of `sS` moved by `n` positions. -/
def Slots.ShiftedBy (n : Nat) (sT sS : Slots) : Prop :=
  sT.size = sS.size ∧ ∀ j, j ≠ 0 → sT[j]? = sS[j]?.map (Option.map (n + ·))

theorem Slots.ShiftedBy.setIfInBounds {n : Nat} {sT sS : Slots} (h : Slots.ShiftedBy n sT sS)
    (slot pos : Nat) :
    Slots.ShiftedBy n (sT.setIfInBounds slot (some (n + pos))) (sS.setIfInBounds slot (some pos)) := by
  refine ⟨by simp [h.1], fun j hj => ?_⟩
  simp only [Array.getElem?_setIfInBounds, h.1]
  split
  · split <;> rfl
  · exact h.2 j hj

theorem Slots.ShiftedBy.applySaves {n : Nat} {sT sS : Slots} (h : Slots.ShiftedBy n sT sS)
    (L : List (Nat × Nat)) :
    Slots.ShiftedBy n (Regex.applySaves (shiftSaves n L) sT) (Regex.applySaves L sS) := by
  induction L generalizing sT sS with
  | nil => exact h
  | cons w L ih => exact ih (h.setIfInBounds w.1 w.2)

theorem Slots.shiftedBy_replicate (n k : Nat) :
    Slots.ShiftedBy n (Array.replicate k none) (Array.replicate k none) := by
  refine ⟨rfl, fun j _ => ?_⟩
  simp only [Array.getElem?_replicate]
  split <;> rfl

/-- Slot `0` is free in a shift. -/
theorem Slots.ShiftedBy.setIfInBounds_zero {n : Nat} {sT sS : Slots} (h : Slots.ShiftedBy n sT sS)
    (v v' : Option Nat) : Slots.ShiftedBy n (sT.setIfInBounds 0 v) (sS.setIfInBounds 0 v') := by
  refine ⟨by simp [h.1], fun j hj => ?_⟩
  simp only [Array.getElem?_setIfInBounds, if_neg (Ne.symm hj)]
  exact h.2 j hj

theorem extract_append_size (pre text : Array Char) (a b : Nat) :
    (pre ++ text).extract (pre.size + a) (pre.size + b) = text.extract a b := by
  rw [Array.extract_append, Array.extract_eq_empty_of_le (by omega), Array.empty_append,
    Nat.add_sub_cancel_left, Nat.add_sub_cancel_left]

/-- Every group but the whole match reads the same characters after a prefix. -/
theorem agreeOnGroups_of_shiftedBy {pre text : Array Char} {sT sS : Slots}
    (h : Slots.ShiftedBy pre.size sT sS) {names : List (String × Nat)}
    (hnames : ∀ n, names.lookup n ≠ some 0) :
    Captures.AgreeOnGroups ⟨pre ++ text, sT, names⟩ ⟨text, sS, names⟩ := by
  have hget : ∀ i, i ≠ 0 →
      Captures.get? ⟨pre ++ text, sT, names⟩ i = Captures.get? ⟨text, sS, names⟩ i := by
    intro i hi
    simp only [Captures.get?, h.2 (2 * i) (by omega), h.2 (2 * i + 1) (by omega)]
    rcases sS[2 * i]? with _ | _ | a <;> rcases sS[2 * i + 1]? with _ | _ | b <;>
      simp only [Option.map_none, Option.map_some, extract_append_size]
  refine ⟨hget, fun n => ?_⟩
  simp only [Captures.named?]
  rcases hn : names.lookup n with _ | i
  · rfl
  · exact hget i fun h0 => hnames n (h0 ▸ hn)

end DumpTopology.Regex
