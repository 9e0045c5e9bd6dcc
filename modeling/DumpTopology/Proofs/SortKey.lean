import DumpTopology.Dump
import DumpTopology.Proofs.LoadOrder
import DumpTopology.Proofs.SortedLoadOrder
import Mathlib.Tactic.Ring

/-!
# Numeric sort keys

A key of decimal digits is padded on the left with zeros to `sortKeyWidth` characters, so
that part 2 of a table loads before part 10. Zeros in front change no number, and two
digit strings of one length compare character by character as the numbers they spell. So
keys of at most `sortKeyWidth` digits compare, by their bytes, as their numbers do, and are
equal exactly when the numbers are (`padSortKey_numeric_order`); since load order sorts each
table's data files by the bytes of their keys, discovery gives such files in numeric order.

A longer key is left as it is, and the agreement stops there: a key of 21 digits sorts
before a smaller one of 20, and a number written with 21 digits keeps a key of its own
(`padSortKey_past_width_not_numeric`).
-/
namespace DumpTopology

/-! ## Decimal values -/

/-- The value of a decimal digit: its code less the code 48 of `'0'`. -/
def digitValue (c : Char) : Nat := c.toNat - 48

/-- One step of reading decimal digits: shift by a place and add the digit. -/
def decimalStep (n : Nat) (c : Char) : Nat := 10 * n + digitValue c

/-- The number that decimal digits spell, the most significant first. -/
def decimalValue (l : List Char) : Nat := l.foldl decimalStep 0

/-- A key that padding treats as a number: non-empty, and all ASCII digits. -/
def IsDigitKey (key : String) : Prop := key.toList ≠ [] ∧ ∀ c ∈ key.toList, c.isDigit = true

-- generate the equations here, so that no proof below waits to generate them
section
attribute [local simp] digitValue decimalStep decimalValue IsDigitKey
end

theorem isDigitKey_iff_all {key : String} :
    IsDigitKey key ↔ key.toList ≠ [] ∧ key.toList.all Char.isDigit = true := by
  simp only [IsDigitKey, List.all_eq_true]

-- decided through `List.all`, which evaluates the same with or without Mathlib's instances
instance : DecidablePred IsDigitKey := fun _ => decidable_of_iff _ isDigitKey_iff_all.symm

theorem isDigit_iff {c : Char} : c.isDigit = true ↔ 48 ≤ c.toNat ∧ c.toNat ≤ 57 := by
  simp only [Char.isDigit, Bool.and_eq_true, decide_eq_true_eq]
  exact Iff.rfl

theorem digitValue_lt_ten {c : Char} (h : c.isDigit = true) : digitValue c < 10 := by
  have := isDigit_iff.mp h
  simp only [digitValue]
  omega

/-- Digits compare as their values. -/
theorem digit_lt_iff {c d : Char} (hc : c.isDigit = true) (hd : d.isDigit = true) :
    c < d ↔ digitValue c < digitValue d := by
  have := isDigit_iff.mp hc
  have := isDigit_iff.mp hd
  rw [Char.lt_def, UInt32.lt_iff_toNat_lt, Char.toNat_val, Char.toNat_val, digitValue, digitValue]
  omega

theorem eq_of_digitValue_eq {c d : Char} (hc : c.isDigit = true) (hd : d.isDigit = true)
    (h : digitValue c = digitValue d) : c = d := by
  have := isDigit_iff.mp hc
  have := isDigit_iff.mp hd
  simp only [digitValue] at h
  exact Char.toNat_inj.mp (by omega)

theorem pow_ten_succ (n : Nat) : Nat.pow 10 (n + 1) = Nat.pow 10 n * 10 := rfl

theorem foldl_decimalStep (n : Nat) (l : List Char) :
    l.foldl decimalStep n = n * Nat.pow 10 l.length + decimalValue l := by
  induction l generalizing n with
  | nil => simp [decimalValue]
  | cons c l ih =>
    have hc : decimalValue (c :: l) = decimalStep 0 c * Nat.pow 10 l.length + decimalValue l :=
      ih _
    rw [List.foldl_cons, ih, hc, List.length_cons, pow_ten_succ, decimalStep, decimalStep]
    ring

theorem decimalValue_cons (c : Char) (l : List Char) :
    decimalValue (c :: l) = digitValue c * Nat.pow 10 l.length + decimalValue l := by
  rw [decimalValue, List.foldl_cons, foldl_decimalStep, decimalStep, Nat.mul_zero, Nat.zero_add]

/-- Zeros in front change no number. -/
theorem decimalValue_zeros_append (k : Nat) (l : List Char) :
    decimalValue (List.replicate k '0' ++ l) = decimalValue l := by
  induction k with
  | zero => rfl
  | succ k ih =>
    rw [List.replicate_succ, List.cons_append, decimalValue_cons, ih,
      show digitValue '0' = 0 from rfl, Nat.zero_mul, Nat.zero_add]

theorem decimalValue_lt_pow {l : List Char} (hl : ∀ c ∈ l, c.isDigit = true) :
    decimalValue l < Nat.pow 10 l.length := by
  induction l with
  | nil => decide
  | cons c l ih =>
    have hc := digitValue_lt_ten (hl c List.mem_cons_self)
    have hrest := ih fun x hx => hl x (List.mem_cons_of_mem c hx)
    rw [decimalValue_cons, List.length_cons, pow_ten_succ]
    calc digitValue c * Nat.pow 10 l.length + decimalValue l
        < (digitValue c + 1) * Nat.pow 10 l.length := by rw [Nat.succ_mul]; omega
      _ ≤ Nat.pow 10 l.length * 10 := by rw [Nat.mul_comm]; exact Nat.mul_le_mul_left _ hc

/-- Of two digit strings of one length, the one with the smaller first digit spells the
smaller number, whatever follows. -/
theorem decimalValue_cons_lt {c d : Char} {l m : List Char} (hlen : l.length = m.length)
    (hl : ∀ x ∈ l, x.isDigit = true) (hcd : digitValue c < digitValue d) :
    decimalValue (c :: l) < decimalValue (d :: m) := by
  rw [decimalValue_cons, decimalValue_cons, ← hlen]
  have hrest := decimalValue_lt_pow hl
  calc digitValue c * Nat.pow 10 l.length + decimalValue l
      < (digitValue c + 1) * Nat.pow 10 l.length := by rw [Nat.succ_mul]; omega
    _ ≤ digitValue d * Nat.pow 10 l.length := Nat.mul_le_mul_right _ hcd
    _ ≤ digitValue d * Nat.pow 10 l.length + decimalValue m := Nat.le_add_right _ _

/-- Digit strings of one length compare character by character as the numbers they spell. -/
theorem lt_iff_decimalValue_lt {l m : List Char} (hlen : l.length = m.length)
    (hl : ∀ c ∈ l, c.isDigit = true) (hm : ∀ c ∈ m, c.isDigit = true) :
    l < m ↔ decimalValue l < decimalValue m := by
  induction l generalizing m with
  | nil =>
    rw [List.length_nil, eq_comm, List.length_eq_zero_iff] at hlen
    subst hlen
    exact iff_of_false (List.lt_irrefl []) (Nat.lt_irrefl _)
  | cons c l ih =>
    cases m with
    | nil => cases hlen
    | cons d m =>
      have hlen' : l.length = m.length := Nat.succ.inj hlen
      have hc := hl c List.mem_cons_self
      have hd := hm d List.mem_cons_self
      have hl' : ∀ x ∈ l, x.isDigit = true := fun x hx => hl x (List.mem_cons_of_mem c hx)
      have hm' : ∀ x ∈ m, x.isDigit = true := fun x hx => hm x (List.mem_cons_of_mem d hx)
      rw [List.cons_lt_cons_iff]
      -- the first digits decide, unless they are the same
      rcases Nat.lt_trichotomy (digitValue c) (digitValue d) with hcd | hcd | hdc
      · exact iff_of_true (.inl ((digit_lt_iff hc hd).mpr hcd)) (decimalValue_cons_lt hlen' hl' hcd)
      · obtain rfl := eq_of_digitValue_eq hc hd hcd
        rw [decimalValue_cons, decimalValue_cons, hlen', Nat.add_lt_add_iff_left, ← ih hlen' hl' hm']
        simp only [Char.lt_irrefl, false_or, true_and]
      · have hnot : ¬ (c < d ∨ c = d ∧ l < m) := by
          rintro (h | ⟨rfl, -⟩)
          · exact Nat.lt_asymm hdc ((digit_lt_iff hc hd).mp h)
          · exact Nat.lt_irrefl _ hdc
        exact iff_of_false hnot (Nat.lt_asymm (decimalValue_cons_lt hlen'.symm hm' hdc))

/-- Digit strings of one length are equal exactly when they spell one number. -/
theorem eq_iff_decimalValue_eq {l m : List Char} (hlen : l.length = m.length)
    (hl : ∀ c ∈ l, c.isDigit = true) (hm : ∀ c ∈ m, c.isDigit = true) :
    l = m ↔ decimalValue l = decimalValue m := by
  refine ⟨congrArg decimalValue, fun h => List.le_antisymm ?_ ?_⟩
  · intro hml
    exact Nat.lt_irrefl _ (h ▸ (lt_iff_decimalValue_lt hlen.symm hm hl).mp hml)
  · intro hlm
    exact Nat.lt_irrefl _ (h ▸ (lt_iff_decimalValue_lt hlen hl hm).mp hlm)

/-! ## Padded keys -/

section Padded

variable {key : String}

theorem padSortKey_of_isDigitKey (h : IsDigitKey key) :
    (padSortKey key).toList = List.replicate (sortKeyWidth - key.length) '0' ++ key.toList := by
  have hnum : (!key.isEmpty && key.all Char.isDigit) = true := by
    obtain ⟨hne, hdigits⟩ := h
    have hne' : key ≠ "" := fun he => hne (by rw [he]; rfl)
    simpa [String.isEmpty_iff, hne'] using hdigits
  rw [padSortKey, if_pos hnum, String.toList_append, String.toList_ofList]

theorem decimalValue_padSortKey (h : IsDigitKey key) :
    decimalValue (padSortKey key).toList = decimalValue key.toList := by
  rw [padSortKey_of_isDigitKey h, decimalValue_zeros_append]

/-- A padded digit key is as long as the width, or as the key when that is longer. -/
theorem length_padSortKey (h : IsDigitKey key) :
    (padSortKey key).toList.length = max sortKeyWidth key.length := by
  rw [padSortKey_of_isDigitKey h, List.length_append, List.length_replicate, String.length_toList]
  omega

/-- A digit key at least as long as the width is left as it is. -/
theorem padSortKey_of_width_le (h : IsDigitKey key) (hw : sortKeyWidth ≤ key.length) :
    padSortKey key = key := by
  rw [← String.toList_inj, padSortKey_of_isDigitKey h, Nat.sub_eq_zero_of_le hw]
  rfl

theorem isDigit_of_mem_padSortKey (h : IsDigitKey key) :
    ∀ c ∈ (padSortKey key).toList, c.isDigit = true := by
  rw [padSortKey_of_isDigitKey h]
  intro c hc
  rcases List.mem_append.mp hc with hc | hc
  · rw [List.eq_of_mem_replicate hc]
    rfl
  · exact h.2 c hc

end Padded

section Width

variable {a b : String} (ha : IsDigitKey a) (hb : IsDigitKey b)
  (hwa : a.length ≤ sortKeyWidth) (hwb : b.length ≤ sortKeyWidth)
include ha hb hwa hwb

/-- Digit keys within the width are padded to one length. -/
theorem length_padSortKey_eq :
    (padSortKey a).toList.length = (padSortKey b).toList.length := by
  rw [length_padSortKey ha, length_padSortKey hb]
  omega

/-- Padded keys of at most `sortKeyWidth` digits compare by their bytes as the numbers they
spell. -/
theorem padSortKey_lt_iff :
    Text.encodeUtf8 (padSortKey a) < Text.encodeUtf8 (padSortKey b) ↔
      decimalValue a.toList < decimalValue b.toList := by
  rw [Text.encodeUtf8_lt_iff, ← decimalValue_padSortKey ha, ← decimalValue_padSortKey hb]
  exact lt_iff_decimalValue_lt (length_padSortKey_eq ha hb hwa hwb)
    (isDigit_of_mem_padSortKey ha) (isDigit_of_mem_padSortKey hb)

/-- Padded keys of at most `sortKeyWidth` digits are equal exactly when their numbers are. -/
theorem padSortKey_eq_iff :
    padSortKey a = padSortKey b ↔ decimalValue a.toList = decimalValue b.toList := by
  rw [← String.toList_inj, ← decimalValue_padSortKey ha, ← decimalValue_padSortKey hb]
  exact eq_iff_decimalValue_eq (length_padSortKey_eq ha hb hwa hwb)
    (isDigit_of_mem_padSortKey ha) (isDigit_of_mem_padSortKey hb)

end Width

/-! ## Discovery -/

/-- Every table of a topology in load order has its data files in the order of the bytes of
their keys. -/
theorem dataFiles_keyOrdered_sortForLoad {dbs : List DatabaseMeta} {db : DatabaseMeta}
    (hdb : db ∈ sortForLoad dbs) {t : TableMeta} (ht : t ∈ db.tables) :
    t.dataFiles.Pairwise fun f g => KeyBytesLe f.sortKey g.sortKey := by
  obtain ⟨db₀, -, rfl⟩ := mem_sortForLoad.mp hdb
  obtain ⟨t₀, -, rfl⟩ := DatabaseMeta.mem_tables_sortForLoad.mp ht
  exact t₀.loadOrdered_sortFiles.files.sorted

/-- After discovery, every table has its data files in the order of the bytes of their keys. -/
theorem Dump.discover_dataFiles_keyOrdered {c : DiscoveryConfig} {s : Store} {cancelled : Bool}
    {dump : Dump} (h : Dump.discover c s cancelled = .ok dump) {db : DatabaseMeta}
    (hdb : db ∈ dump.topology.databases) {t : TableMeta} (ht : t ∈ db.tables) :
    t.dataFiles.Pairwise fun f g => KeyBytesLe f.sortKey g.sortKey := by
  simp only [Dump.discover, except_bind_eq_ok, except_pure_eq_ok] at h
  obtain ⟨_, -, d, -, T, hT, rfl⟩ := h
  simp only [Discovery.discover, except_bind_eq_ok, except_pure_eq_ok] at hT
  obtain ⟨dbs, -, rfl⟩ := hT
  exact dataFiles_keyOrdered_sortForLoad hdb ht

/-- Padded digit keys of at most `sortKeyWidth` digits compare as their numbers, and are
equal exactly when the numbers are. So after any discovery, of two data files of one table
whose keys are such padded keys, the one that comes first has the smaller or equal number. -/
theorem padSortKey_numeric_order {a b : String} (ha : IsDigitKey a) (hb : IsDigitKey b)
    (hwa : a.length ≤ sortKeyWidth) (hwb : b.length ≤ sortKeyWidth) :
    (Text.encodeUtf8 (padSortKey a) < Text.encodeUtf8 (padSortKey b) ↔
      decimalValue a.toList < decimalValue b.toList) ∧
    (padSortKey a = padSortKey b ↔ decimalValue a.toList = decimalValue b.toList) ∧
    ∀ (c : DiscoveryConfig) (s : Store) (cancelled : Bool) (dump : Dump),
      Dump.discover c s cancelled = .ok dump →
      ∀ db ∈ dump.topology.databases, ∀ t ∈ db.tables,
        t.dataFiles.Pairwise fun f g => f.sortKey = padSortKey a → g.sortKey = padSortKey b →
          decimalValue a.toList ≤ decimalValue b.toList := by
  refine ⟨padSortKey_lt_iff ha hb hwa hwb, padSortKey_eq_iff ha hb hwa hwb, ?_⟩
  intro c s cancelled dump h db hdb t ht
  refine (Dump.discover_dataFiles_keyOrdered h hdb ht).imp fun hfg hf hg => ?_
  -- the earlier file's key bytes are not above the later one's
  rw [KeyBytesLe, hf, hg] at hfg
  exact Nat.not_lt.mp fun hlt => hfg ((padSortKey_lt_iff hb ha hwb hwa).mpr hlt)

/-- Part 2 of a table goes before part 10. -/
theorem padSortKey_numeric_order_two_ten :
    IsDigitKey "2" ∧ IsDigitKey "10" ∧ "2".length ≤ sortKeyWidth ∧ "10".length ≤ sortKeyWidth ∧
      ((Text.encodeUtf8 (padSortKey "2") < Text.encodeUtf8 (padSortKey "10") ↔
        decimalValue "2".toList < decimalValue "10".toList) ∧
      (padSortKey "2" = padSortKey "10" ↔ decimalValue "2".toList = decimalValue "10".toList) ∧
      ∀ (c : DiscoveryConfig) (s : Store) (cancelled : Bool) (dump : Dump),
        Dump.discover c s cancelled = .ok dump →
        ∀ db ∈ dump.topology.databases, ∀ t ∈ db.tables,
          t.dataFiles.Pairwise fun f g => f.sortKey = padSortKey "2" → g.sortKey = padSortKey "10" →
            decimalValue "2".toList ≤ decimalValue "10".toList) := by
  have h2 : IsDigitKey "2" := by decide
  have h10 : IsDigitKey "10" := by decide
  have hw2 : "2".length ≤ sortKeyWidth := by decide
  have hw10 : "10".length ≤ sortKeyWidth := by decide
  exact ⟨h2, h10, hw2, hw10, padSortKey_numeric_order h2 h10 hw2 hw10⟩

/-- Past `sortKeyWidth` digits keys no longer follow their numbers: a key of 21 digits sorts
before a smaller number of 20, and a number written with 21 digits keeps a key apart from
the same number written with one. -/
theorem padSortKey_past_width_not_numeric :
    decimalValue "99999999999999999999".toList < decimalValue "100000000000000000000".toList ∧
      Text.encodeUtf8 (padSortKey "100000000000000000000") <
        Text.encodeUtf8 (padSortKey "99999999999999999999") ∧
    decimalValue "000000000000000000005".toList = decimalValue "5".toList ∧
      padSortKey "000000000000000000005" ≠ padSortKey "5" := by
  have hbig : IsDigitKey "100000000000000000000" := by decide
  have hnines : IsDigitKey "99999999999999999999" := by decide
  have hzeros : IsDigitKey "000000000000000000005" := by decide
  have hfive : IsDigitKey "5" := by decide
  -- keys of the width or longer are compared as they are written
  rw [padSortKey_of_width_le hbig (by decide),
    padSortKey_of_width_le hnines (by decide)]
  refine ⟨by decide, by decide, by decide, fun h => ?_⟩
  -- the key of 21 digits is longer than the padded key of one
  have hlen := congrArg (·.toList.length) h
  simp only [length_padSortKey hzeros, length_padSortKey hfive] at hlen
  revert hlen
  decide

end DumpTopology
