import DumpTopology.LoadOrder
import DumpTopology.Proofs.Builder.Contents
import Mathlib.Data.List.Perm.Basic

/-!
# What load order keeps

Putting databases into load order only reorders: the databases stay as they are, each
keeps its name and declaration, its tables are its tables up to order, and each table keeps
its identity and total with its data files up to order. So whatever a list of databases
accounts for, its load order accounts for too (`AccountsFor.sortForLoad`).
-/
namespace DumpTopology

namespace TableMeta

@[simp] theorem identity_sortFiles (t : TableMeta) : t.sortFiles.identity = t.identity := rfl

@[simp] theorem name_sortFiles (t : TableMeta) : t.sortFiles.name = t.name := rfl

@[simp] theorem db_sortFiles (t : TableMeta) : t.sortFiles.db = t.db := rfl

@[simp] theorem totalSize_sortFiles (t : TableMeta) : t.sortFiles.totalSize = t.totalSize := rfl

theorem dataFiles_sortFiles_perm (t : TableMeta) : t.sortFiles.dataFiles.Perm t.dataFiles :=
  List.mergeSort_perm _ _

@[simp] theorem mem_dataFiles_sortFiles {t : TableMeta} {f : SourceFile} :
    f ∈ t.sortFiles.dataFiles ↔ f ∈ t.dataFiles :=
  List.mem_mergeSort

end TableMeta

namespace DatabaseMeta

@[simp] theorem name_sortForLoad (d : DatabaseMeta) : d.sortForLoad.name = d.name := rfl

theorem tables_sortForLoad_perm (d : DatabaseMeta) :
    d.sortForLoad.tables.Perm (d.tables.map TableMeta.sortFiles) :=
  (List.mergeSort_perm _ _).map _

theorem mem_tables_sortForLoad {d : DatabaseMeta} {t' : TableMeta} :
    t' ∈ d.sortForLoad.tables ↔ ∃ t ∈ d.tables, t.sortFiles = t' := by
  simp [sortForLoad]

/-- Over a database's tables, load order keeps the data files up to order. -/
theorem dataFiles_sortForLoad_perm (d : DatabaseMeta) :
    (d.sortForLoad.tables.flatMap (·.dataFiles)).Perm (d.tables.flatMap (·.dataFiles)) :=
  calc d.sortForLoad.tables.flatMap (·.dataFiles)
    _ |>.Perm ((d.tables.map TableMeta.sortFiles).flatMap (·.dataFiles)) :=
      d.tables_sortForLoad_perm.flatMap_right _
    _ = d.tables.flatMap (·.sortFiles.dataFiles) := List.flatMap_map _ _ _
    _ |>.Perm (d.tables.flatMap (·.dataFiles)) :=
      List.Perm.flatMap_left _ fun t _ => t.dataFiles_sortFiles_perm

end DatabaseMeta

theorem map_name_sortForLoad (dbs : List DatabaseMeta) :
    (sortForLoad dbs).map (·.name) = dbs.map (·.name) := by
  simp [sortForLoad, Function.comp_def]

theorem mem_sortForLoad {dbs : List DatabaseMeta} {d' : DatabaseMeta} :
    d' ∈ sortForLoad dbs ↔ ∃ d ∈ dbs, d.sortForLoad = d' := by
  simp [sortForLoad]

/-- Over all tables, load order keeps the data files up to order. -/
theorem dataFiles_sortForLoad_perm (dbs : List DatabaseMeta) :
    (((sortForLoad dbs).flatMap (·.tables)).flatMap (·.dataFiles)).Perm
      ((dbs.flatMap (·.tables)).flatMap (·.dataFiles)) := by
  rw [List.flatMap_assoc, List.flatMap_assoc, sortForLoad, List.flatMap_map]
  exact List.Perm.flatMap_left _ fun d _ => d.dataFiles_sortForLoad_perm

/-- What a list of databases accounts for, its load order accounts for. -/
theorem AccountsFor.sortForLoad {files : List ClassifiedFile} {dbs : List DatabaseMeta}
    (h : AccountsFor files dbs) : AccountsFor files (sortForLoad dbs) where
  names_nodup := by
    rw [map_name_sortForLoad]
    exact h.names_nodup
  tables_nodup d' hd' := by
    obtain ⟨d, hd, rfl⟩ := mem_sortForLoad.mp hd'
    have hperm := d.tables_sortForLoad_perm.map (·.name)
    rw [List.map_map] at hperm
    exact (hperm.nodup_iff.mpr (by simpa [Function.comp_def] using h.tables_nodup d hd))
  db_eq d' hd' t' ht' := by
    obtain ⟨d, hd, rfl⟩ := mem_sortForLoad.mp hd'
    obtain ⟨t, ht, rfl⟩ := DatabaseMeta.mem_tables_sortForLoad.mp ht'
    simpa using h.db_eq d hd t ht
  dataFiles_perm := (dataFiles_sortForLoad_perm dbs).trans h.dataFiles_perm
  mem_table r hr := by
    obtain ⟨d, hd, t, ht, hid, hf⟩ := h.mem_table r hr
    refine ⟨d.sortForLoad, mem_sortForLoad.mpr ⟨d, hd, rfl⟩, t.sortFiles,
      DatabaseMeta.mem_tables_sortForLoad.mpr ⟨t, ht, rfl⟩, by simpa using hid, by simpa using hf⟩
  totals d' hd' t' ht' := by
    obtain ⟨d, hd, rfl⟩ := mem_sortForLoad.mp hd'
    obtain ⟨t, ht, rfl⟩ := DatabaseMeta.mem_tables_sortForLoad.mp ht'
    rw [TableMeta.totalSize_sortFiles, h.totals d hd t ht]
    exact sizeTotal_perm t.dataFiles_sortFiles_perm.symm

end DumpTopology
