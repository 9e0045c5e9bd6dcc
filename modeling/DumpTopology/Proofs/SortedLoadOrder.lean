import DumpTopology.LoadOrder
import DumpTopology.Proofs.Text.ByteOrder
import Mathlib.Data.List.Forall2

/-!
# Load order is a stable sort

Load order sorts at two levels and changes nothing else: the databases stay as they are,
each database's tables are sorted by total size, and each table's data files by the bytes
of their sort keys. Both sorts are stable: the elements of one key keep their order
(`StablySorted`). Since the result of each sort is already in order, sorting again
changes nothing (`sortForLoad_stable_two_level`).
-/
namespace DumpTopology

section StablySorted

variable {α κ : Type} [DecidableEq κ]

/-- `out` is `l` sorted stably by a key: a permutation of `l` in non-decreasing key order in
which the elements of each key keep their order. -/
structure StablySorted (le : κ → κ → Prop) (key : α → κ) (l out : List α) : Prop where
  perm : out.Perm l
  sorted : out.Pairwise fun a b => le (key a) (key b)
  stable : ∀ k, out.filter (key · = k) = l.filter (key · = k)

/-- Merge sort by a total preorder that compares keys sorts stably by the key. -/
theorem mergeSort_stablySorted {le : α → α → Bool} {r : κ → κ → Prop} {key : α → κ}
    (hle : ∀ a b, le a b = true ↔ r (key a) (key b))
    (trans : ∀ a b c, le a b = true → le b c = true → le a c = true)
    (total : ∀ a b, (le a b || le b a) = true) (l : List α) :
    StablySorted r key l (l.mergeSort le) where
  perm := List.mergeSort_perm l le
  sorted := (List.pairwise_mergeSort trans total l).imp fun h => (hle _ _).mp h
  stable k := by
    -- the elements of key `k` are in order among themselves, so merge sort keeps them
    -- as a sublist, and a sublist as long as the whole is the whole
    have hsame : ∀ a b, key a = key b → le a b = true := fun a b hab => by
      rcases Bool.or_eq_true_iff.mp (total a b) with h | h
      · exact h
      · -- the keys are equal, so the order holds both ways
        have hba := (hle b a).mp h
        rw [hab] at hba
        rw [hle, hab]
        exact hba
    have hpair : (l.filter (key · = k)).Pairwise fun a b => le a b = true := by
      refine List.Pairwise.imp_of_mem ?_ (List.pairwise_of_forall fun _ _ => trivial)
      intro a b ha hb _
      rw [List.mem_filter, decide_eq_true_eq] at ha hb
      exact hsame a b (ha.2.trans hb.2.symm)
    have hsub : (l.filter (key · = k)).Sublist ((l.mergeSort le).filter (key · = k)) := by
      have := (List.sublist_mergeSort trans total hpair (List.filter_sublist (l := l))).filter
        (key · = k)
      simpa only [List.filter_filter, Bool.and_self] using this
    exact (hsub.eq_of_length ((List.mergeSort_perm l le).filter _).length_eq.symm).symm

/-- A list sorted stably by a key order that is total is in order for the sort. -/
theorem StablySorted.pairwise_le {le : α → α → Bool} {r : κ → κ → Prop} {key : α → κ}
    {l out : List α} (hs : StablySorted r key l out)
    (hle : ∀ a b, le a b = true ↔ r (key a) (key b)) :
    out.Pairwise fun a b => le a b = true :=
  hs.sorted.imp fun h => (hle _ _).mpr h

end StablySorted

/-! ## The two orders -/

theorem tableBefore_iff (a b : TableMeta) : tableBefore a b = true ↔ a.totalSize ≤ b.totalSize := by
  simp [tableBefore]

theorem tableBefore_trans (a b c : TableMeta) :
    tableBefore a b = true → tableBefore b c = true → tableBefore a c = true := by
  simp only [tableBefore_iff]
  exact Nat.le_trans

theorem tableBefore_total (a b : TableMeta) : (tableBefore a b || tableBefore b a) = true := by
  simp only [Bool.or_eq_true, tableBefore_iff]
  exact Nat.le_total _ _

/-- Sort keys are compared by their UTF-8 bytes. -/
def KeyBytesLe (a b : String) : Prop := Text.encodeUtf8 a ≤ Text.encodeUtf8 b

theorem fileBefore_iff (a b : SourceFile) :
    fileBefore a b = true ↔ KeyBytesLe a.sortKey b.sortKey := by
  rw [KeyBytesLe, Text.encodeUtf8_le_iff]
  simp only [fileBefore, Bool.not_eq_true', decide_eq_false_iff_not, String.not_lt]

theorem fileBefore_trans (a b c : SourceFile) :
    fileBefore a b = true → fileBefore b c = true → fileBefore a c = true := by
  simp only [fileBefore_iff, KeyBytesLe, Text.encodeUtf8_le_iff]
  exact String.le_trans

theorem fileBefore_total (a b : SourceFile) : (fileBefore a b || fileBefore b a) = true := by
  simp only [Bool.or_eq_true, fileBefore_iff, KeyBytesLe, Text.encodeUtf8_le_iff]
  exact String.le_total _ _

/-! ## Load order -/

/-- A table in load order: its data files sorted stably by the bytes of their keys, and
every other field as it was. -/
structure TableMeta.LoadOrdered (t t' : TableMeta) : Prop where
  same : { t' with dataFiles := t.dataFiles } = t
  files : StablySorted KeyBytesLe (·.sortKey) t.dataFiles t'.dataFiles

/-- A database in load order: its name and declaration as they were, and its tables sorted
stably by total size, each then in load order. -/
structure DatabaseMeta.LoadOrdered (d d' : DatabaseMeta) : Prop where
  name : d'.name = d.name
  schemaFile : d'.schemaFile = d.schemaFile
  tables : ∃ ts, StablySorted (· ≤ ·) (·.totalSize) d.tables ts ∧
    List.Forall₂ TableMeta.LoadOrdered ts d'.tables

theorem TableMeta.loadOrdered_sortFiles (t : TableMeta) : t.LoadOrdered t.sortFiles where
  same := rfl
  files := mergeSort_stablySorted fileBefore_iff fileBefore_trans fileBefore_total _

theorem DatabaseMeta.loadOrdered_sortForLoad (d : DatabaseMeta) : d.LoadOrdered d.sortForLoad where
  name := rfl
  schemaFile := rfl
  tables := ⟨d.tables.mergeSort tableBefore,
    mergeSort_stablySorted tableBefore_iff tableBefore_trans tableBefore_total _,
    List.forall₂_map_right_iff.mpr
      (List.forall₂_same.mpr fun t _ => t.loadOrdered_sortFiles)⟩

/-- Sorting files that are in key order changes nothing. -/
theorem TableMeta.sortFiles_of_loadOrdered {t t' : TableMeta} (h : t.LoadOrdered t') :
    t'.sortFiles = t' := by
  have hsorted := h.files.pairwise_le fileBefore_iff
  simp only [TableMeta.sortFiles, List.mergeSort_of_pairwise hsorted]

theorem TableMeta.LoadOrdered.totalSize_eq {t t' : TableMeta} (h : t.LoadOrdered t') :
    t'.totalSize = t.totalSize := by
  have := congrArg TableMeta.totalSize h.same
  simpa using this

/-- Related lists have equal images when related elements do. -/
theorem map_eq_map_of_forall₂ {α β γ : Type} {R : α → β → Prop} {f : α → γ} {g : β → γ}
    {l₁ : List α} {l₂ : List β} (h : List.Forall₂ R l₁ l₂) (hfg : ∀ a b, R a b → f a = g b) :
    l₁.map f = l₂.map g := by
  induction h with
  | nil => rfl
  | cons hab _ ih => simp [hfg _ _ hab, ih]

/-- A function that fixes every element related to something fixes the list. -/
theorem map_eq_self_of_forall₂ {α β : Type} {R : α → β → Prop} {g : β → β}
    {l₁ : List α} {l₂ : List β} (h : List.Forall₂ R l₁ l₂) (hg : ∀ a b, R a b → g b = b) :
    l₂.map g = l₂ := by
  induction h with
  | nil => rfl
  | cons hab _ ih => simp [hg _ _ hab, ih]

/-- Sorting tables that are in load order changes nothing. -/
theorem DatabaseMeta.sortForLoad_of_loadOrdered {d d' : DatabaseMeta} (h : d.LoadOrdered d') :
    d'.sortForLoad = d' := by
  obtain ⟨ts, hts, hfiles⟩ := h.tables
  -- sorting files keeps sizes, so the tables come in size order
  have hsizes : ts.map (·.totalSize) = d'.tables.map (·.totalSize) :=
    map_eq_map_of_forall₂ hfiles fun _ _ ht => ht.totalSize_eq.symm
  have hsorted : d'.tables.Pairwise fun a b => tableBefore a b = true := by
    have hpair : (ts.map (·.totalSize)).Pairwise (· ≤ ·) := List.pairwise_map.mpr hts.sorted
    rw [hsizes, List.pairwise_map] at hpair
    exact hpair.imp fun hab => (tableBefore_iff _ _).mpr hab
  have hkeep : d'.tables.map TableMeta.sortFiles = d'.tables :=
    map_eq_self_of_forall₂ hfiles fun _ _ ht => TableMeta.sortFiles_of_loadOrdered ht
  simp only [DatabaseMeta.sortForLoad, List.mergeSort_of_pairwise hsorted, hkeep]

/-- Load order is a stable two-level sort that changes nothing else: the databases stay in
their order with their names and declarations, each database's tables are sorted stably by
total size, each table's data files are sorted stably by the bytes of their sort keys, and
every other field of a table is kept. Hence sorting a second time changes nothing. -/
theorem sortForLoad_stable_two_level (dbs : List DatabaseMeta) :
    List.Forall₂ DatabaseMeta.LoadOrdered dbs (sortForLoad dbs) ∧
      sortForLoad (sortForLoad dbs) = sortForLoad dbs := by
  have hordered : List.Forall₂ DatabaseMeta.LoadOrdered dbs (sortForLoad dbs) :=
    List.forall₂_map_right_iff.mpr
      (List.forall₂_same.mpr fun d _ => d.loadOrdered_sortForLoad)
  exact ⟨hordered,
    map_eq_self_of_forall₂ hordered fun _ _ hd => DatabaseMeta.sortForLoad_of_loadOrdered hd⟩

end DumpTopology
