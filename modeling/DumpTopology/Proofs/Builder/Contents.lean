import DumpTopology.Proofs.Builder.Outcome

/-!
# What built databases hold

A coherent builder that holds the data files of a list (`Filed`) gives databases with
distinct names, tables with distinct names within each database that carry their
database's name, every file of the list exactly once over all tables, each in the table of
its identity, and every table's total equal to the sum of its files' sizes
(`AccountsFor`, from `HoldsData.accountsFor`).

Over all tables, the files are those of the list grouped by identity in the order of the
tables: a regrouping of the list, since the identities are distinct and cover the list
(`flatMap_filesOf_perm`).
-/
namespace DumpTopology

theorem filesOf_cons (r : ClassifiedFile) (files : List ClassifiedFile) (id : TableName) :
    filesOf (r :: files) id = if r.name = id then r.file :: filesOf files id
      else filesOf files id := by
  by_cases h : r.name = id <;> simp [filesOf, h]

theorem mem_filesOf {files : List ClassifiedFile} {r : ClassifiedFile} (hr : r ∈ files) :
    r.file ∈ filesOf files r.name :=
  List.mem_map_of_mem (List.mem_filter.mpr ⟨hr, by simp⟩)

/-- Putting a file in front of the files of one identity of a list of distinct identities
puts it in front of all of them, up to order. -/
theorem flatMap_cons_at_perm {L : List TableName} (hL : L.Nodup) {a : TableName} (ha : a ∈ L)
    (x : SourceFile) (g : TableName → List SourceFile) :
    (L.flatMap fun id => if a = id then x :: g id else g id).Perm (x :: L.flatMap g) := by
  induction L with
  | nil => cases ha
  | cons id L ih =>
    rw [List.nodup_cons] at hL
    simp only [List.flatMap_cons]
    by_cases hid : a = id
    · -- the one identity that receives the file; the others are unchanged
      subst hid
      have hrest : (L.flatMap fun id => if a = id then x :: g id else g id) = L.flatMap g :=
        List.flatMap_congr fun id hid => if_neg fun (he : a = id) => hL.1 (he ▸ hid)
      rw [if_pos rfl, hrest]
      rfl
    · have ha' : a ∈ L := (List.mem_cons.mp ha).resolve_left hid
      rw [if_neg hid]
      exact ((ih hL.2 ha').append_left (g id)).trans List.perm_middle

/-- The files of a list, grouped by a list of distinct identities that covers it, are the
files of the list up to order. -/
theorem flatMap_filesOf_perm {L : List TableName} (hL : L.Nodup) :
    ∀ {files : List ClassifiedFile}, (∀ r ∈ files, r.name ∈ L) →
      (L.flatMap (filesOf files)).Perm (files.map (·.file)) := by
  intro files
  induction files with
  | nil =>
    intro _
    simp [filesOf]
  | cons r files ih =>
    intro hcov
    have hrest := ih fun r' hr' => hcov r' (List.mem_cons_of_mem r hr')
    rw [funext (filesOf_cons r files), List.map_cons]
    exact (flatMap_cons_at_perm hL (hcov r List.mem_cons_self) r.file (filesOf files)).trans
      (hrest.cons r.file)

theorem sizeTotal_perm {fs gs : List SourceFile} (h : fs.Perm gs) : sizeTotal fs = sizeTotal gs :=
  (h.map SourceFile.size).foldr_eq' (fun x _ y _ z => Nat.add_left_comm y x z) 0

/-- What a list of databases holds of a list of data files: distinct database names,
distinct table names within each database, tables that carry their database's name, every
file of the list exactly once over all tables and in the table of its identity, and totals
that are the sums of the files' sizes. -/
structure AccountsFor (files : List ClassifiedFile) (dbs : List DatabaseMeta) : Prop where
  names_nodup : (dbs.map (·.name)).Nodup
  tables_nodup : ∀ d ∈ dbs, (d.tables.map (·.name)).Nodup
  db_eq : ∀ d ∈ dbs, ∀ t ∈ d.tables, t.db = d.name
  dataFiles_perm : ((dbs.flatMap (·.tables)).flatMap (·.dataFiles)).Perm (files.map (·.file))
  mem_table : ∀ r ∈ files, ∃ d ∈ dbs, ∃ t ∈ d.tables, t.identity = r.name ∧ r.file ∈ t.dataFiles
  totals : ∀ d ∈ dbs, ∀ t ∈ d.tables, t.totalSize = sizeTotal t.dataFiles

namespace Builder

theorem Filed.of_mem {files : List ClassifiedFile} {b : Builder} (hf : Filed files b)
    {d : DatabaseMeta} (hd : d ∈ b.databases) {t : TableMeta} (ht : t ∈ d.tables) :
    t.dataFiles = filesOf files t.identity ∧ t.totalSize = dataSize files t.identity := by
  obtain ⟨i, hi⟩ := List.mem_iff_getElem?.mp hd
  obtain ⟨j, hj⟩ := List.mem_iff_getElem?.mp ht
  exact hf.tables (i, j) t (tableEntry_eq_some.mpr ⟨d, hi, hj⟩)

theorem identities_eq_map (b : Builder) :
    b.identities = (b.databases.flatMap (·.tables)).map (·.identity) := by
  simp [identities, List.map_flatMap]

/-- Over all tables, the data files are those of the list, each once. -/
theorem Filed.dataFiles_perm {files : List ClassifiedFile} {b : Builder} (h : b.Coherent)
    (hf : Filed files b) :
    ((b.databases.flatMap (·.tables)).flatMap (·.dataFiles)).Perm (files.map (·.file)) := by
  have htables : (b.databases.flatMap (·.tables)).flatMap (·.dataFiles) =
      b.identities.flatMap (filesOf files) := by
    rw [identities_eq_map, List.flatMap_map]
    apply List.flatMap_congr
    intro t ht
    obtain ⟨d, hd, ht⟩ := List.mem_flatMap.mp ht
    exact (hf.of_mem hd ht).1
  rw [htables]
  exact flatMap_filesOf_perm h.identities_nodup hf.covered

/-- Every file of the list sits in the table of its identity. -/
theorem Filed.mem_table {files : List ClassifiedFile} {b : Builder} (hf : Filed files b)
    {r : ClassifiedFile} (hr : r ∈ files) :
    ∃ d ∈ b.databases, ∃ t ∈ d.tables, t.identity = r.name ∧ r.file ∈ t.dataFiles := by
  obtain ⟨d, hd, t, ht, hid⟩ := mem_identities.mp (hf.covered r hr)
  refine ⟨d, hd, t, ht, hid, ?_⟩
  rw [(hf.of_mem hd ht).1, hid]
  exact mem_filesOf hr

theorem HoldsData.accountsFor {files : List ClassifiedFile} {dbs : List DatabaseMeta}
    (h : HoldsData files dbs) : AccountsFor files dbs := by
  obtain ⟨b, hc, hf, rfl⟩ := h
  refine ⟨hc.names_nodup, fun d hd => hc.tables_nodup hd, fun d hd t ht => hc.db_of_mem hd ht,
    hf.dataFiles_perm hc, fun r hr => hf.mem_table hr, fun d hd t ht => ?_⟩
  obtain ⟨hfiles, hsize⟩ := hf.of_mem hd ht
  rw [hsize, hfiles]
  rfl

end Builder

end DumpTopology
