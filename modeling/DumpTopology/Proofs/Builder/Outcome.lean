import DumpTopology.Proofs.Builder.Coherence
import DumpTopology.Proofs.Checked

/-!
# When building succeeds, and which fault it reports

Building runs three checked folds: over the database declarations, the table declarations
and the data files. Each step is checked (`Checked`) against a condition on the record and
the records before it:

* a database declaration is bad when its schema was declared before and duplicates are not
  tolerated;
* a table declaration is bad when its schema has no database declaration, or when its
  identity was declared before and duplicates are not tolerated;
* a data file is bad, in schema mode, when its schema has no database declaration or its
  identity no table declaration, and in both modes when it brings the sizes of its
  identity's files past the size limit.

The states between the steps stand for the records so far: after the data files every
table holds exactly the files of its identity, in order, with their total size (`Filed`).

The main statement, `build_succeeds_iff_first_fault`, says when building from an empty
builder succeeds in each mode, and that in schema mode it reports the fault of the first
bad record in processing order (`SchemaFault`).
-/
namespace DumpTopology

/-! ## The conditions of a build -/

/-- The files of an identity, in order. -/
def filesOf (files : List ClassifiedFile) (id : TableName) : List SourceFile :=
  (files.filter (·.name = id)).map (·.file)

/-- The exact total size of some files. -/
def sizeTotal (fs : List SourceFile) : Nat := (fs.map (·.size)).foldr (· + ·) 0

/-- The total size of the files of an identity. -/
def dataSize (files : List ClassifiedFile) (id : TableName) : Nat := sizeTotal (filesOf files id)

theorem filesOf_append (l₁ l₂ : List ClassifiedFile) (id : TableName) :
    filesOf (l₁ ++ l₂) id = filesOf l₁ id ++ filesOf l₂ id := by
  simp [filesOf, List.filter_append]

theorem filesOf_singleton (r : ClassifiedFile) (id : TableName) :
    filesOf [r] id = if r.name = id then [r.file] else [] := by
  by_cases h : r.name = id <;> simp [filesOf, h]

theorem filesOf_eq_nil {files : List ClassifiedFile} {id : TableName}
    (h : ∀ r ∈ files, r.name ≠ id) : filesOf files id = [] := by
  simpa [filesOf, List.filter_eq_nil_iff] using h

theorem sizeTotal_append (fs gs : List SourceFile) :
    sizeTotal (fs ++ gs) = sizeTotal fs + sizeTotal gs := by
  induction fs with
  | nil => simp [sizeTotal]
  | cons f fs ih =>
    simp only [sizeTotal, List.cons_append, List.map_cons, List.foldr_cons] at ih ⊢
    omega

theorem dataSize_append (l₁ l₂ : List ClassifiedFile) (id : TableName) :
    dataSize (l₁ ++ l₂) id = dataSize l₁ id + dataSize l₂ id := by
  rw [dataSize, filesOf_append, sizeTotal_append]
  rfl

theorem dataSize_singleton (r : ClassifiedFile) (id : TableName) :
    dataSize [r] id = if r.name = id then r.file.size else 0 := by
  rw [dataSize, filesOf_singleton]
  split <;> rfl

/-- No identity's files add up to more than the size limit. -/
def SizesFit (files : List ClassifiedFile) : Prop := ∀ id, dataSize files id ≤ maxSize

/-- Database declarations pass when duplicates are tolerated or their schemas are
distinct. -/
def DeclarationsPass (tol : Bool) (decls : List SchemaDeclaration) : Prop :=
  tol = true ∨ (decls.map (·.schema)).Nodup

/-- Table declarations pass when each names a declared database, and duplicates are
tolerated or their identities are distinct. -/
def TablesPass (tol : Bool) (decls : List SchemaDeclaration) (tables : List ClassifiedFile) :
    Prop :=
  (∀ r ∈ tables, r.name.schema ∈ decls.map (·.schema)) ∧
    (tol = true ∨ (tables.map (·.name)).Nodup)

instance (tol : Bool) (decls : List SchemaDeclaration) :
    Decidable (DeclarationsPass tol decls) := by
  unfold DeclarationsPass
  infer_instance

instance (tol : Bool) (decls : List SchemaDeclaration) (tables : List ClassifiedFile) :
    Decidable (TablesPass tol decls tables) := by
  unfold TablesPass
  infer_instance

/-- Data files pass when each has a table declaration and no identity's files pass the size
limit. -/
def DataPass (tables files : List ClassifiedFile) : Prop :=
  (∀ r ∈ files, r.name ∈ tables.map (·.name)) ∧ SizesFit files

/-- The fault of the first database declaration that repeats a schema. -/
inductive DatabaseFault (tol : Bool) (decls : List SchemaDeclaration) : DiscoveryFault → Prop
  | duplicate {pre : List SchemaDeclaration} {d : SchemaDeclaration}
      {post : List SchemaDeclaration} :
      decls = pre ++ d :: post → tol = false → (pre.map (·.schema)).Nodup →
      d.schema ∈ pre.map (·.schema) →
      DatabaseFault tol decls (.duplicateDeclaration "database schema" d.schema d.path)

/-- The fault of the first table declaration that fails its checks. -/
inductive TableFault (tol : Bool) (decls : List SchemaDeclaration)
    (tables : List ClassifiedFile) : DiscoveryFault → Prop
  | missingDatabase {pre : List ClassifiedFile} {r : ClassifiedFile}
      {post : List ClassifiedFile} :
      tables = pre ++ r :: post → TablesPass tol decls pre →
      r.name.schema ∉ decls.map (·.schema) →
      TableFault tol decls tables (.missingDeclaration
        s!"invalid table schema file, cannot find db '{r.name.schema}' - {r.file.path}")
  | duplicate {pre : List ClassifiedFile} {r : ClassifiedFile} {post : List ClassifiedFile} :
      tables = pre ++ r :: post → TablesPass tol decls pre →
      r.name.schema ∈ decls.map (·.schema) → tol = false → r.name ∈ pre.map (·.name) →
      TableFault tol decls tables
        (.duplicateDeclaration "table schema" r.name.display r.file.path)

/-- The fault of the first data file that fails its checks in schema mode. -/
inductive DataFault (decls : List SchemaDeclaration) (tables files : List ClassifiedFile) :
    DiscoveryFault → Prop
  | missingDatabase {pre : List ClassifiedFile} {r : ClassifiedFile}
      {post : List ClassifiedFile} :
      files = pre ++ r :: post → DataPass tables pre → r.name.schema ∉ decls.map (·.schema) →
      DataFault decls tables files (.missingDeclaration
        s!"invalid data file, miss host db '{r.name.schema}' - {r.file.path}")
  | missingTable {pre : List ClassifiedFile} {r : ClassifiedFile}
      {post : List ClassifiedFile} :
      files = pre ++ r :: post → DataPass tables pre → r.name.schema ∈ decls.map (·.schema) →
      r.name ∉ tables.map (·.name) →
      DataFault decls tables files (.missingDeclaration
        s!"invalid data file, miss host table '{r.name.name}' - {r.file.path}")
  | sizeOverflow {pre : List ClassifiedFile} {r : ClassifiedFile}
      {post : List ClassifiedFile} :
      files = pre ++ r :: post → DataPass tables pre → r.name.schema ∈ decls.map (·.schema) →
      r.name ∈ tables.map (·.name) → maxSize < dataSize (pre ++ [r]) r.name →
      DataFault decls tables files .sizeOverflow

/-- The fault that building in schema mode reports: that of the first record, in processing
order (database declarations, table declarations, data files), that fails its check. -/
inductive SchemaFault (tol : Bool) (B : Buckets) : DiscoveryFault → Prop
  | noDeclaration : B.databaseSchemas = [] →
      SchemaFault tol B (.missingDeclaration
        "no database schema file found, expected \x7bschema\x7d-schema-create.sql")
  | database {e : DiscoveryFault} : B.databaseSchemas ≠ [] →
      DatabaseFault tol B.databaseSchemas e → SchemaFault tol B e
  | table {e : DiscoveryFault} : B.databaseSchemas ≠ [] →
      DeclarationsPass tol B.databaseSchemas →
      TableFault tol B.databaseSchemas B.tableSchemas e → SchemaFault tol B e
  | data {e : DiscoveryFault} : B.databaseSchemas ≠ [] →
      DeclarationsPass tol B.databaseSchemas →
      TablesPass tol B.databaseSchemas B.tableSchemas →
      DataFault B.databaseSchemas B.tableSchemas B.tableData e → SchemaFault tol B e

namespace Builder

/-! ## The files held by the tables -/

/-- Every table holds exactly the files of a list that carry its identity, in order, with
their total size, and every identity of the list has a table. -/
structure Filed (files : List ClassifiedFile) (b : Builder) : Prop where
  tables : ∀ pos t, b.tableEntry pos = some t →
    t.dataFiles = filesOf files t.identity ∧ t.totalSize = dataSize files t.identity
  covered : ∀ r ∈ files, r.name ∈ b.identities

/-- Adding a file to a table keeps its identity. -/
theorem identity_add_file (total : Nat) (f : SourceFile) (t : TableMeta) :
    ({ t with totalSize := total, dataFiles := t.dataFiles ++ [f] } : TableMeta).identity =
      t.identity := rfl

section Filed

variable {files : List ClassifiedFile} {b : Builder}

theorem Filed.of_identities_nil (h : b.identities = []) : Filed [] b where
  tables pos t ht := by
    have hmem := mem_identities_iff_tableEntry.mpr ⟨pos, t, ht, rfl⟩
    rw [h] at hmem
    cases hmem
  covered _ hr := nomatch hr

/-- A table that naming creates holds no file, and no file of the list has its identity. -/
theorem Filed.tableHandle (h : b.Coherent) (hf : Filed files b) (id : TableName) :
    Filed files (b.tableHandle id).1 where
  tables q t ht := by
    rw [h.tableEntry_tableHandle] at ht
    split at ht
    · rename_i hq
      cases ht
      have hnone : filesOf files id = [] :=
        filesOf_eq_nil fun r hr hname => hq.2 (hname ▸ hf.covered r hr)
      show [] = filesOf files id ∧ 0 = dataSize files id
      rw [dataSize, hnone]
      exact ⟨rfl, rfl⟩
    · exact hf.tables q t ht
  covered r hr := (h.mem_identities_tableHandle id).mpr (.inl (hf.covered r hr))

/-- Changing a table without touching its identity and its files keeps what it holds. -/
theorem Filed.modifyTable (hf : Filed files b) (pos : Nat × Nat) {f : TableMeta → TableMeta}
    (hid : ∀ t, (f t).identity = t.identity) (hfiles : ∀ t, (f t).dataFiles = t.dataFiles)
    (hsize : ∀ t, (f t).totalSize = t.totalSize) : Filed files (b.modifyTable pos f) where
  tables q t ht := by
    rw [tableEntry_modifyTable] at ht
    split at ht
    · obtain ⟨t₀, ht₀, rfl⟩ := Option.map_eq_some_iff.mp ht
      rw [hid, hfiles, hsize]
      exact hf.tables _ t₀ ht₀
    · exact hf.tables q t ht
  covered r hr := (mem_identities_modifyTable hid).mpr (hf.covered r hr)

/-- Appending a file to the table of its identity, with the total so far plus its size,
makes the tables hold the longer list. -/
theorem Filed.append (h : b.Coherent) (hf : Filed files b) {pos : Nat × Nat} {t : TableMeta}
    (ht : b.tableEntry pos = some t) {r : ClassifiedFile} (hid : t.identity = r.name) :
    Filed (files ++ [r]) (b.modifyTable pos fun t =>
      { t with totalSize := dataSize files r.name + r.file.size,
               dataFiles := t.dataFiles ++ [r.file] }) where
  tables q t' ht' := by
    rw [tableEntry_modifyTable] at ht'
    split at ht'
    · rename_i hq
      subst hq
      rw [ht] at ht'
      cases ht'
      obtain ⟨hfiles, -⟩ := hf.tables _ t ht
      show t.dataFiles ++ [r.file] = filesOf (files ++ [r]) t.identity ∧
        dataSize files r.name + r.file.size = dataSize (files ++ [r]) t.identity
      rw [hfiles, hid, filesOf_append, filesOf_singleton, dataSize_append, dataSize_singleton]
      simp
    · rename_i hq
      -- another position holds another identity, whose files the new one does not change
      have hne : r.name ≠ t'.identity := fun he => hq (h.position_unique ht' ht (he ▸ hid).symm)
      obtain ⟨hfiles, hsize⟩ := hf.tables q t' ht'
      rw [filesOf_append, filesOf_singleton, dataSize_append, dataSize_singleton, if_neg hne,
        if_neg hne, hfiles, hsize]
      simp
  covered x hx := by
    rw [mem_identities_modifyTable (identity_add_file (dataSize files r.name + r.file.size) r.file)]
    rcases List.mem_append.mp hx with hx | hx
    · exact hf.covered x hx
    · obtain rfl := List.mem_singleton.mp hx
      exact mem_identities_iff_tableEntry.mpr ⟨pos, t, ht, hid⟩

end Filed

/-! ## The declarations of databases -/

/-- The state after a prefix of database declarations: coherent, naming exactly their
schemas, and without tables. -/
def Declared (pre : List SchemaDeclaration) (b : Builder) : Prop :=
  b.Coherent ∧ (∀ n, n ∈ b.names ↔ n ∈ pre.map (·.schema)) ∧ b.identities = []

theorem declared_empty : Declared [] {} :=
  ⟨coherent_empty, by simp [names], rfl⟩

theorem declareDatabase_eq {b : Builder} (h : b.Coherent) (policy : BuildPolicy)
    (d : SchemaDeclaration) :
    declareDatabase policy b d =
      if d.schema ∈ b.names ∧ policy.tolerateDuplicates = false then
        .error (.duplicateDeclaration "database schema" d.schema d.path)
      else .ok (b.databaseHandle d.schema d.file).1 := by
  have he := h.databaseHandle_existed d.schema d.file
  rcases hdh : b.databaseHandle d.schema d.file with ⟨b', i, e⟩
  rw [hdh] at he
  simp only at he
  subst he
  obtain ⟨sm, tol⟩ := policy
  cases tol <;> by_cases hn : d.schema ∈ b.names <;> simp [declareDatabase, hdh, hn]

theorem declareDatabase_checked (policy : BuildPolicy) :
    Checked (fun pre d => policy.tolerateDuplicates = true ∨ d.schema ∉ pre.map (·.schema))
      (fun _ d => .duplicateDeclaration "database schema" d.schema d.path)
      (declareDatabase policy) Declared where
  ok := by
    rintro pre b d ⟨h, hnames, hids⟩ hgood
    have hstep : declareDatabase policy b d = .ok (b.databaseHandle d.schema d.file).1 := by
      rw [declareDatabase_eq h, if_neg]
      rintro ⟨hmem, htol⟩
      rcases hgood with hgood | hgood
      · rw [hgood] at htol
        cases htol
      · exact hgood ((hnames _).mp hmem)
    refine ⟨_, hstep, h.databaseHandle d.schema d.file, fun n => ?_, ?_⟩
    · rw [h.names_databaseHandle]
      split
      · rename_i hmem
        rw [hnames, mem_map_append_singleton_iff ((hnames _).mp hmem)]
      · simp [hnames]
    · rw [h.identities_databaseHandle, hids]
  error := by
    rintro pre b d ⟨h, hnames, -⟩ hbad
    simp only [not_or, Bool.not_eq_true, not_not] at hbad
    rw [declareDatabase_eq h, if_pos ⟨(hnames _).mpr hbad.2, hbad.1⟩]

theorem firstBad_declareDatabase_iff (tol : Bool) (decls : List SchemaDeclaration)
    (e : DiscoveryFault) :
    FirstBad (fun pre d => tol = true ∨ d.schema ∉ pre.map (·.schema))
        (fun _ d => .duplicateDeclaration "database schema" d.schema d.path) [] decls e ↔
      DatabaseFault tol decls e := by
  rw [firstBad_iff]
  constructor
  · rintro ⟨pre, d, post, rfl, hpre, hd, rfl⟩
    simp only [List.nil_append, not_or, Bool.not_eq_true, not_not] at hd
    have hnd := (allGood_unique_iff tol).mp hpre
    rw [hd.1] at hnd
    exact .duplicate rfl hd.1 (hnd.resolve_left Bool.false_ne_true) hd.2
  · rintro @⟨pre, d, post, hsplit, htol, hnd, hd⟩
    refine ⟨pre, d, post, hsplit, (allGood_unique_iff tol).mpr (.inr hnd), ?_, rfl⟩
    simp [htol, hd]

/-- Declaring the databases from an empty builder fails with the first repeated schema,
unless duplicates are tolerated, and otherwise names exactly the declared schemas. -/
theorem foldlM_declareDatabase (policy : BuildPolicy) (decls : List SchemaDeclaration) :
    Outcome (decls.foldlM (declareDatabase policy) {})
      (DatabaseFault policy.tolerateDuplicates decls) (Declared decls)
      (DeclarationsPass policy.tolerateDuplicates decls) :=
  ((declareDatabase_checked policy).foldlM decls declared_empty).imp
    (firstBad_declareDatabase_iff _ decls) (fun b hb => by simpa using hb)
    (allGood_unique_iff _)

/-! ## The declarations of tables -/

/-- The state after a prefix of table declarations: coherent, naming exactly the declared
schemas, with exactly the identities of the prefix, and no data file. -/
def TablesDeclared (decls : List SchemaDeclaration) (pre : List ClassifiedFile) (b : Builder) :
    Prop :=
  b.Coherent ∧ (∀ n, n ∈ b.names ↔ n ∈ decls.map (·.schema)) ∧
    (∀ id, id ∈ b.identities ↔ id ∈ pre.map (·.name)) ∧ Filed [] b

theorem tablesDeclared_of_declared {decls : List SchemaDeclaration} {b : Builder}
    (hb : Declared decls b) : TablesDeclared decls [] b := by
  obtain ⟨h, hnames, hids⟩ := hb
  refine ⟨h, hnames, fun id => ?_, Filed.of_identities_nil hids⟩
  simp [hids]

theorem declareTable_eq {b : Builder} (h : b.Coherent) (policy : BuildPolicy)
    (r : ClassifiedFile) :
    declareTable policy b r =
      if r.name.schema ∉ b.names then
        .error (.missingDeclaration
          s!"invalid table schema file, cannot find db '{r.name.schema}' - {r.file.path}")
      else if r.name ∈ b.identities then
        if policy.tolerateDuplicates then .ok b
        else .error (.duplicateDeclaration "table schema" r.name.display r.file.path)
      else .ok ((b.tableHandle r.name).1.modifyTable (b.tableHandle r.name).2.1
        fun t => { t with schemaFile := some r.file }) := by
  have he := h.tableHandle_existed r.name
  by_cases hid : r.name ∈ b.identities
  · obtain ⟨pos, hth, -⟩ := h.tableHandle_of_mem hid
    rw [hth] at he
    simp only [Prod.mk.injEq] at he
    have hs : r.name.schema ∈ b.names := of_decide_eq_true he.1.symm
    simp [declareTable, hth, hs, hid]
  · rcases hth : b.tableHandle r.name with ⟨b', pos, e₁, e₂⟩
    rw [hth] at he
    simp only [Prod.mk.injEq] at he
    obtain ⟨rfl, rfl⟩ := he
    by_cases hs : r.name.schema ∈ b.names <;> simp [declareTable, hth, hs, hid]

/-- Setting a table's declaration keeps its identity. -/
theorem identity_set_schemaFile (f : SourceFile) (t : TableMeta) :
    ({ t with schemaFile := some f } : TableMeta).identity = t.identity := rfl

theorem declareTable_checked (policy : BuildPolicy) (decls : List SchemaDeclaration) :
    Checked (fun pre r => r.name.schema ∈ decls.map (·.schema) ∧
        (policy.tolerateDuplicates = true ∨ r.name ∉ pre.map (·.name)))
      (fun _ r => if r.name.schema ∈ decls.map (·.schema) then
          .duplicateDeclaration "table schema" r.name.display r.file.path
        else .missingDeclaration
          s!"invalid table schema file, cannot find db '{r.name.schema}' - {r.file.path}")
      (declareTable policy) (TablesDeclared decls) where
  ok := by
    rintro pre b r ⟨h, hnames, hids, hf⟩ ⟨hdecl, hgood⟩
    have hs : r.name.schema ∈ b.names := (hnames _).mpr hdecl
    by_cases hid : r.name ∈ b.identities
    · -- a repeated declaration: tolerated, and nothing changes
      have htol : policy.tolerateDuplicates = true := by
        rcases hgood with hgood | hgood
        · exact hgood
        · exact absurd ((hids _).mp hid) hgood
      refine ⟨b, by simp [declareTable_eq h, hs, hid, htol], h, hnames, fun id => ?_, hf⟩
      rw [hids, mem_map_append_singleton_iff ((hids _).mp hid)]
    · have hth := h.tableHandle r.name
      refine ⟨(b.tableHandle r.name).1.modifyTable (b.tableHandle r.name).2.1
          fun t => { t with schemaFile := some r.file },
        by simp [declareTable_eq h, hs, hid],
        hth.modifyTable (fun t => { t with schemaFile := some r.file })
          (identity_set_schemaFile r.file),
        fun n => ?_, fun id => ?_,
        (hf.tableHandle h r.name).modifyTable _ (identity_set_schemaFile r.file)
          (fun _ => rfl) (fun _ => rfl)⟩
      · rw [names_modifyTable, h.names_tableHandle, if_pos hs, hnames]
      · rw [mem_identities_modifyTable (identity_set_schemaFile r.file),
          h.mem_identities_tableHandle, hids]
        simp
  error := by
    rintro pre b r ⟨h, hnames, hids, -⟩ hbad
    rw [declareTable_eq h]
    by_cases hdecl : r.name.schema ∈ decls.map (·.schema)
    · have hs : r.name.schema ∈ b.names := (hnames _).mpr hdecl
      simp only [hdecl, true_and, not_or, Bool.not_eq_true, not_not] at hbad
      have hid : r.name ∈ b.identities := (hids _).mpr hbad.2
      simp [hs, hid, hbad.1, hdecl]
    · have hs : r.name.schema ∉ b.names := fun hs => hdecl ((hnames _).mp hs)
      simp [hs, hdecl]

theorem allGood_declareTable_iff (tol : Bool) (decls : List SchemaDeclaration)
    (tables : List ClassifiedFile) :
    AllGood (fun pre r => r.name.schema ∈ decls.map (·.schema) ∧
        (tol = true ∨ r.name ∉ pre.map (·.name))) [] tables ↔ TablesPass tol decls tables := by
  rw [allGood_and_iff, allGood_unique_iff]
  rfl

theorem firstBad_declareTable_iff (tol : Bool) (decls : List SchemaDeclaration)
    (tables : List ClassifiedFile) (e : DiscoveryFault) :
    FirstBad (fun pre r => r.name.schema ∈ decls.map (·.schema) ∧
        (tol = true ∨ r.name ∉ pre.map (·.name)))
      (fun _ r => if r.name.schema ∈ decls.map (·.schema) then
          .duplicateDeclaration "table schema" r.name.display r.file.path
        else .missingDeclaration
          s!"invalid table schema file, cannot find db '{r.name.schema}' - {r.file.path}")
      [] tables e ↔ TableFault tol decls tables e := by
  rw [firstBad_iff]
  constructor
  · rintro ⟨pre, r, post, rfl, hpre, hbad, rfl⟩
    have hpass := (allGood_declareTable_iff tol decls pre).mp hpre
    simp only [List.nil_append] at hbad ⊢
    by_cases hdecl : r.name.schema ∈ decls.map (·.schema)
    · simp only [hdecl, true_and, not_or, Bool.not_eq_true, not_not] at hbad
      rw [if_pos hdecl]
      exact .duplicate rfl hpass hdecl hbad.1 hbad.2
    · rw [if_neg hdecl]
      exact .missingDatabase rfl hpass hdecl
  · rintro (@⟨pre, r, post, hsplit, hpass, hdecl⟩ |
      @⟨pre, r, post, hsplit, hpass, hdecl, htol, hid⟩)
    · refine ⟨pre, r, post, hsplit, (allGood_declareTable_iff tol decls pre).mpr hpass, ?_, ?_⟩
      · simp [hdecl]
      · simp [hdecl]
    · refine ⟨pre, r, post, hsplit, (allGood_declareTable_iff tol decls pre).mpr hpass, ?_, ?_⟩
      · simp [htol, hid]
      · simp [hdecl]

/-- Declaring the tables after the databases fails with the first table declaration that
fails its checks, and otherwise names exactly the declared identities. -/
theorem foldlM_declareTable (policy : BuildPolicy) (decls : List SchemaDeclaration)
    (tables : List ClassifiedFile) {b : Builder} (hb : TablesDeclared decls [] b) :
    Outcome (tables.foldlM (declareTable policy) b)
      (TableFault policy.tolerateDuplicates decls tables) (TablesDeclared decls tables)
      (TablesPass policy.tolerateDuplicates decls tables) :=
  ((declareTable_checked policy decls).foldlM tables hb).imp
    (firstBad_declareTable_iff _ decls tables) (fun b hb => by simpa using hb)
    (allGood_declareTable_iff _ decls tables)

/-! ## The data files -/

/-- The state after a prefix of data files: coherent, holding the files of the prefix, and,
in schema mode, naming exactly the declared schemas and identities. -/
def DataAdded (sm : Bool) (decls : List SchemaDeclaration) (tables : List ClassifiedFile)
    (pre : List ClassifiedFile) (b : Builder) : Prop :=
  b.Coherent ∧ Filed pre b ∧
    (sm = true → (∀ n, n ∈ b.names ↔ n ∈ decls.map (·.schema)) ∧
      ∀ id, id ∈ b.identities ↔ id ∈ tables.map (·.name))

/-- A data file passes its checks after the files before it. -/
def DataGood (sm : Bool) (decls : List SchemaDeclaration) (tables : List ClassifiedFile)
    (pre : List ClassifiedFile) (r : ClassifiedFile) : Prop :=
  (sm = true → r.name.schema ∈ decls.map (·.schema) ∧ r.name ∈ tables.map (·.name)) ∧
    dataSize (pre ++ [r]) r.name ≤ maxSize

/-- The fault of a data file that fails its checks: a missing database, then a missing
table, in schema mode, and otherwise the size limit. -/
def dataFault (sm : Bool) (decls : List SchemaDeclaration) (tables : List ClassifiedFile)
    (r : ClassifiedFile) : DiscoveryFault :=
  if sm = true ∧ r.name.schema ∉ decls.map (·.schema) then
    .missingDeclaration s!"invalid data file, miss host db '{r.name.schema}' - {r.file.path}"
  else if sm = true ∧ r.name ∉ tables.map (·.name) then
    .missingDeclaration s!"invalid data file, miss host table '{r.name.name}' - {r.file.path}"
  else .sizeOverflow

/-- The table that naming an identity hands out holds the total size of its files so far. -/
theorem Filed.handed {files : List ClassifiedFile} {b : Builder} (h : b.Coherent)
    (hf : Filed files b) (id : TableName) :
    ((b.tableHandle id).1.tableAt (b.tableHandle id).2.1).totalSize = dataSize files id := by
  obtain ⟨t, ht, hid, -⟩ := h.tableHandle_position id
  rw [tableAt_eq, ht, Option.getD_some, ← hid]
  exact ((hf.tableHandle h id).tables _ _ ht).2

theorem addData_eq {files : List ClassifiedFile} {b : Builder} (h : b.Coherent)
    (hf : Filed files b) (policy : BuildPolicy) (r : ClassifiedFile) :
    addData policy b r =
      if policy.schemaMode = true ∧ r.name.schema ∉ b.names then
        .error (.missingDeclaration
          s!"invalid data file, miss host db '{r.name.schema}' - {r.file.path}")
      else if policy.schemaMode = true ∧ r.name ∉ b.identities then
        .error (.missingDeclaration
          s!"invalid data file, miss host table '{r.name.name}' - {r.file.path}")
      else (checkedSize (dataSize files r.name + r.file.size)).map fun total =>
        (b.tableHandle r.name).1.modifyTable (b.tableHandle r.name).2.1
          fun t => { t with totalSize := total, dataFiles := t.dataFiles ++ [r.file] } := by
  have he := h.tableHandle_existed r.name
  have htotal := hf.handed h r.name
  rcases hth : b.tableHandle r.name with ⟨b', pos, e₁, e₂⟩
  rw [hth] at he htotal
  simp only [Prod.mk.injEq] at he
  obtain ⟨rfl, rfl⟩ := he
  simp only at htotal
  obtain ⟨sm, tol⟩ := policy
  cases sm <;> by_cases hs : r.name.schema ∈ b.names <;>
    by_cases hid : r.name ∈ b.identities <;> simp [addData, hth, hs, hid, htotal]

theorem addData_checked (policy : BuildPolicy) (decls : List SchemaDeclaration)
    (tables : List ClassifiedFile) :
    Checked (DataGood policy.schemaMode decls tables)
      (fun _ r => dataFault policy.schemaMode decls tables r)
      (addData policy) (DataAdded policy.schemaMode decls tables) where
  ok := by
    rintro pre b r ⟨h, hf, hmode⟩ ⟨hdecl, hsize⟩
    have hfit : dataSize pre r.name + r.file.size ≤ maxSize := by
      rwa [dataSize_append, dataSize_singleton, if_pos rfl] at hsize
    have hth := h.tableHandle r.name
    obtain ⟨t, ht, hid, -⟩ := h.tableHandle_position r.name
    -- in schema mode the file's database and table exist, so nothing new is named
    have hknown : policy.schemaMode = true →
        r.name.schema ∈ b.names ∧ r.name ∈ b.identities := fun hsm =>
      ⟨((hmode hsm).1 _).mpr (hdecl hsm).1, ((hmode hsm).2 _).mpr (hdecl hsm).2⟩
    refine ⟨_, ?_, hth.modifyTable _ (identity_add_file _ r.file),
      (hf.tableHandle h r.name).append hth ht hid, fun hsm => ⟨fun n => ?_, fun id => ?_⟩⟩
    · rw [addData_eq h hf, if_neg (fun hc => hc.2 (hknown hc.1).1),
        if_neg (fun hc => hc.2 (hknown hc.1).2), checkedSize, if_pos hfit]
      rfl
    · rw [names_modifyTable, h.names_tableHandle, if_pos (hknown hsm).1, (hmode hsm).1]
    · rw [mem_identities_modifyTable (identity_add_file _ r.file), h.mem_identities_tableHandle,
        (hmode hsm).2]
      constructor
      · rintro (hin | rfl)
        · exact hin
        · exact (hdecl hsm).2
      · exact .inl
  error := by
    rintro pre b r ⟨h, hf, hmode⟩ hbad
    rw [addData_eq h hf]
    unfold DataGood at hbad
    unfold dataFault
    by_cases hsm : policy.schemaMode = true
    · obtain ⟨hnames, hids⟩ := hmode hsm
      by_cases hs : r.name.schema ∈ decls.map (·.schema)
      · by_cases hin : r.name ∈ tables.map (·.name)
        · have hover : ¬ dataSize pre r.name + r.file.size ≤ maxSize := by
            simpa [hsm, hs, hin, dataSize_append, dataSize_singleton] using hbad
          simp [hsm, (hnames _).mpr hs, (hids _).mpr hin, hs, hin, checkedSize, hover,
            Except.map]
        · simp [hsm, (hnames _).mpr hs, hs, hin, (hids _).not.mpr hin]
      · simp [hsm, hs, (hnames _).not.mpr hs]
    · have hover : ¬ dataSize pre r.name + r.file.size ≤ maxSize := by
        simpa [hsm, dataSize_append, dataSize_singleton] using hbad
      simp [hsm, checkedSize, hover, Except.map]

/-- From sizes that fit, every file keeps its identity's sizes within the limit exactly when
the sizes of the whole list fit. -/
theorem allGood_dataSize_iff {p files : List ClassifiedFile} (hp : SizesFit p) :
    AllGood (fun pre r => dataSize (pre ++ [r]) r.name ≤ maxSize) p files ↔
      SizesFit (p ++ files) := by
  induction files generalizing p with
  | nil => simpa using hp
  | cons r files ih =>
    rw [allGood_cons]
    by_cases hr : dataSize (p ++ [r]) r.name ≤ maxSize
    · have hp' : SizesFit (p ++ [r]) := fun id => by
        by_cases hid : r.name = id
        · exact hid ▸ hr
        · have := hp id
          rw [dataSize_append, dataSize_singleton, if_neg hid]
          omega
      rw [ih hp']
      simp [hr]
    · simp only [hr, false_and, false_iff]
      intro hfit
      have hle := hfit r.name
      rw [show p ++ r :: files = (p ++ [r]) ++ files by simp, dataSize_append] at hle
      omega

theorem allGood_dataGood_iff (sm : Bool) (decls : List SchemaDeclaration)
    (tables files : List ClassifiedFile) :
    AllGood (DataGood sm decls tables) [] files ↔
      (sm = true → ∀ r ∈ files, r.name.schema ∈ decls.map (·.schema) ∧
        r.name ∈ tables.map (·.name)) ∧ SizesFit files := by
  show AllGood (fun pre r => (sm = true → r.name.schema ∈ decls.map (·.schema) ∧
    r.name ∈ tables.map (·.name)) ∧ dataSize (pre ++ [r]) r.name ≤ maxSize) [] files ↔ _
  rw [allGood_and_iff, allGood_dataSize_iff (fun _ => Nat.zero_le _)]
  simp only [List.nil_append]
  exact ⟨fun ⟨h, hs⟩ => ⟨fun hsm r hr => h r hr hsm, hs⟩,
    fun ⟨h, hs⟩ => ⟨fun r hr hsm => h hsm r hr, hs⟩⟩

/-- When every declared table names a declared database, a data file with a declared table
has a declared database. -/
theorem schema_mem_of_name_mem {tol : Bool} {decls : List SchemaDeclaration}
    {tables : List ClassifiedFile} (ht : TablesPass tol decls tables) {id : TableName}
    (hid : id ∈ tables.map (·.name)) : id.schema ∈ decls.map (·.schema) := by
  obtain ⟨r, hr, rfl⟩ := List.mem_map.mp hid
  exact ht.1 r hr

theorem allGood_dataGood_free_iff (decls : List SchemaDeclaration)
    (tables files : List ClassifiedFile) :
    AllGood (DataGood false decls tables) [] files ↔ SizesFit files := by
  rw [allGood_dataGood_iff]
  simp

theorem allGood_dataGood_schema_iff {tol : Bool} {decls : List SchemaDeclaration}
    {tables : List ClassifiedFile} (ht : TablesPass tol decls tables)
    (files : List ClassifiedFile) :
    AllGood (DataGood true decls tables) [] files ↔ DataPass tables files := by
  rw [allGood_dataGood_iff]
  constructor
  · rintro ⟨h, hs⟩
    exact ⟨fun r hr => (h rfl r hr).2, hs⟩
  · rintro ⟨h, hs⟩
    exact ⟨fun _ r hr => ⟨schema_mem_of_name_mem ht (h r hr), h r hr⟩, hs⟩

theorem firstBad_dataGood_iff {tol : Bool} {decls : List SchemaDeclaration}
    {tables : List ClassifiedFile} (ht : TablesPass tol decls tables)
    (files : List ClassifiedFile) (e : DiscoveryFault) :
    FirstBad (DataGood true decls tables) (fun _ r => dataFault true decls tables r) []
        files e ↔ DataFault decls tables files e := by
  rw [firstBad_iff]
  constructor
  · rintro ⟨pre, r, post, rfl, hpre, hbad, rfl⟩
    have hpass := (allGood_dataGood_schema_iff ht pre).mp hpre
    simp only [List.nil_append] at hbad ⊢
    unfold DataGood at hbad
    unfold dataFault
    by_cases hs : r.name.schema ∈ decls.map (·.schema)
    · by_cases hin : r.name ∈ tables.map (·.name)
      · have hover : maxSize < dataSize (pre ++ [r]) r.name := by
          simpa [hs, hin] using hbad
        rw [if_neg (fun hc => hc.2 hs), if_neg (fun hc => hc.2 hin)]
        exact .sizeOverflow rfl hpass hs hin hover
      · rw [if_neg (fun hc => hc.2 hs), if_pos ⟨rfl, hin⟩]
        exact .missingTable rfl hpass hs hin
    · rw [if_pos ⟨rfl, hs⟩]
      exact .missingDatabase rfl hpass hs
  · rintro (@⟨pre, r, post, hsplit, hpass, hs⟩ | @⟨pre, r, post, hsplit, hpass, hs, hin⟩ |
      @⟨pre, r, post, hsplit, hpass, hs, hin, hover⟩) <;>
      refine ⟨pre, r, post, hsplit, (allGood_dataGood_schema_iff ht pre).mpr hpass, ?_, ?_⟩
    · simp [DataGood, hs]
    · simp [dataFault, hs]
    · simp [DataGood, hin]
    · simp [dataFault, hs, hin]
    · simpa [DataGood, hs, hin] using hover
    · simp [dataFault, hs, hin]

theorem dataAdded_of_tablesDeclared {decls : List SchemaDeclaration}
    {tables : List ClassifiedFile} {b : Builder} (hb : TablesDeclared decls tables b) :
    DataAdded true decls tables [] b :=
  ⟨hb.1, hb.2.2.2, fun _ => ⟨hb.2.1, hb.2.2.1⟩⟩

/-! ## The whole build -/

theorem declare_eq (b : Builder) (B : Buckets) (policy : BuildPolicy) :
    b.declare B policy =
      if B.databaseSchemas = [] then
        .error (.missingDeclaration
          "no database schema file found, expected \x7bschema\x7d-schema-create.sql")
      else B.databaseSchemas.foldlM (declareDatabase policy) b >>= fun b =>
        B.tableSchemas.foldlM (declareTable policy) b := by
  by_cases hempty : B.databaseSchemas = []
  · simp [declare, hempty]
    rfl
  · simp [declare, hempty]

/-- The declarations of schema mode fail when there is no database declaration, and
otherwise with the first declaration that fails its checks. -/
theorem declare_outcome (tol : Bool) (B : Buckets) :
    Outcome (({} : Builder).declare B ⟨true, tol⟩)
      (fun e => (B.databaseSchemas = [] ∧ e = .missingDeclaration
          "no database schema file found, expected \x7bschema\x7d-schema-create.sql") ∨
        (B.databaseSchemas ≠ [] ∧ (DatabaseFault tol B.databaseSchemas e ∨
          DeclarationsPass tol B.databaseSchemas ∧
            TableFault tol B.databaseSchemas B.tableSchemas e)))
      (TablesDeclared B.databaseSchemas B.tableSchemas)
      (B.databaseSchemas ≠ [] ∧ DeclarationsPass tol B.databaseSchemas ∧
        TablesPass tol B.databaseSchemas B.tableSchemas) := by
  rw [declare_eq]
  by_cases hempty : B.databaseSchemas = []
  · rw [if_pos hempty]
    exact (outcome_error _).imp (fun e => by simp [hempty]) (fun _ => False.elim)
      (by simp [hempty])
  · rw [if_neg hempty]
    exact ((foldlM_declareDatabase ⟨true, tol⟩ B.databaseSchemas).bind fun b hb =>
      foldlM_declareTable ⟨true, tol⟩ _ B.tableSchemas (tablesDeclared_of_declared hb)).imp
        (fun e => by simp [hempty]) (fun _ h => h) (by simp [hempty])

theorem schemaFault_iff (tol : Bool) (B : Buckets) (e : DiscoveryFault) :
    SchemaFault tol B e ↔
      ((B.databaseSchemas = [] ∧ e = .missingDeclaration
          "no database schema file found, expected \x7bschema\x7d-schema-create.sql") ∨
        (B.databaseSchemas ≠ [] ∧ (DatabaseFault tol B.databaseSchemas e ∨
          DeclarationsPass tol B.databaseSchemas ∧
            TableFault tol B.databaseSchemas B.tableSchemas e))) ∨
      ((B.databaseSchemas ≠ [] ∧ DeclarationsPass tol B.databaseSchemas ∧
        TablesPass tol B.databaseSchemas B.tableSchemas) ∧
          DataFault B.databaseSchemas B.tableSchemas B.tableData e) := by
  constructor
  · rintro (hnil | ⟨hne, hf⟩ | ⟨hne, hd, hf⟩ | ⟨hne, hd, ht, hf⟩)
    · exact .inl (.inl ⟨hnil, rfl⟩)
    · exact .inl (.inr ⟨hne, .inl hf⟩)
    · exact .inl (.inr ⟨hne, .inr ⟨hd, hf⟩⟩)
    · exact .inr ⟨⟨hne, hd, ht⟩, hf⟩
  · rintro ((⟨hnil, rfl⟩ | ⟨hne, hf | ⟨hd, hf⟩⟩) | ⟨⟨hne, hd, ht⟩, hf⟩)
    · exact .noDeclaration hnil
    · exact .database hne hf
    · exact .table hne hd hf
    · exact .data hne hd ht hf

theorem build_schema_eq (b : Builder) (B : Buckets) (tol : Bool) :
    build b B ⟨true, tol⟩ = b.declare B ⟨true, tol⟩ >>= fun b =>
      B.tableData.foldlM (addData ⟨true, tol⟩) b >>= fun b => pure b.databases := rfl

theorem build_free_eq (b : Builder) (B : Buckets) (tol : Bool) :
    build b B ⟨false, tol⟩ =
      B.tableData.foldlM (addData ⟨false, tol⟩) b >>= fun b => pure b.databases := rfl

/-- The databases of a builder that is coherent and holds exactly the data files of a
list. -/
def HoldsData (files : List ClassifiedFile) (dbs : List DatabaseMeta) : Prop :=
  ∃ b : Builder, b.Coherent ∧ Filed files b ∧ dbs = b.databases

theorem holdsData_of_dataAdded {sm : Bool} {decls : List SchemaDeclaration}
    {tables files : List ClassifiedFile} {b : Builder}
    (hb : DataAdded sm decls tables ([] ++ files) b) :
    Coherent b ∧ Filed files b :=
  ⟨hb.1, by simpa using hb.2.1⟩

/-- In schema mode, building from an empty builder fails exactly with the fault of the first
record that fails its check, and succeeds exactly when every record passes, with databases
that hold exactly the data files. -/
theorem build_schema_outcome (tol : Bool) (B : Buckets) :
    Outcome (build {} B ⟨true, tol⟩) (SchemaFault tol B) (HoldsData B.tableData)
      (B.databaseSchemas ≠ [] ∧ DeclarationsPass tol B.databaseSchemas ∧
        TablesPass tol B.databaseSchemas B.tableSchemas ∧
          DataPass B.tableSchemas B.tableData) := by
  rw [build_schema_eq]
  -- the data files are checked against the declarations, once these have passed
  have hdata : ∀ b, TablesDeclared B.databaseSchemas B.tableSchemas b ∧
      (B.databaseSchemas ≠ [] ∧ DeclarationsPass tol B.databaseSchemas ∧
        TablesPass tol B.databaseSchemas B.tableSchemas) →
      Outcome (B.tableData.foldlM (addData ⟨true, tol⟩) b)
        (DataFault B.databaseSchemas B.tableSchemas B.tableData)
        (fun b => Coherent b ∧ Filed B.tableData b)
        (DataPass B.tableSchemas B.tableData) := fun b hb =>
    ((addData_checked ⟨true, tol⟩ _ _).foldlM B.tableData
        (dataAdded_of_tablesDeclared hb.1)).imp
      (firstBad_dataGood_iff hb.2.2.2 B.tableData) (fun _ => holdsData_of_dataAdded)
      (allGood_dataGood_schema_iff hb.2.2.2 B.tableData)
  exact ((declare_outcome tol B).ok_and.bind fun b hb => (hdata b hb).map).imp
    (fun e => (schemaFault_iff tol B e).symm) (fun _ ⟨b, ⟨hc, hf⟩, he⟩ => ⟨b, hc, hf, he⟩)
    (by simp only [and_assoc])

/-- Outside schema mode, building from an empty builder fails only when an identity's files
pass the size limit, and then with the size overflow; its databases hold exactly the data
files. -/
theorem build_free_outcome (tol : Bool) (B : Buckets) :
    Outcome (build {} B ⟨false, tol⟩) (fun e => e = .sizeOverflow ∧ ¬ SizesFit B.tableData)
      (HoldsData B.tableData) (SizesFit B.tableData) := by
  rw [build_free_eq]
  have hstart : DataAdded false [] [] [] {} :=
    ⟨coherent_empty, Filed.of_identities_nil rfl, nofun⟩
  have hfold := ((addData_checked ⟨false, tol⟩ [] []).foldlM B.tableData hstart).imp
    (fun e => Iff.rfl) (fun _ => holdsData_of_dataAdded) (allGood_dataGood_free_iff _ _ _)
  -- outside schema mode the only check a data file can fail is the size limit
  exact ((hfold.only fun e he => by
      obtain ⟨pre, r, post, -, -, -, rfl⟩ := firstBad_iff.mp he
      simp [dataFault]).map).imp (fun _ => Iff.rfl)
    (fun _ ⟨b, ⟨hc, hf⟩, he⟩ => ⟨b, hc, hf, he⟩) Iff.rfl

/-- Building from an empty builder, in either mode, gives databases that hold exactly the
data files. -/
theorem build_holdsData {B : Buckets} {policy : BuildPolicy} {dbs : List DatabaseMeta}
    (h : build {} B policy = .ok dbs) : HoldsData B.tableData dbs := by
  obtain ⟨sm, tol⟩ := policy
  cases sm
  · exact (build_free_outcome tol B).ok dbs h
  · exact (build_schema_outcome tol B).ok dbs h

/-- The outcome of building from an empty builder. Outside schema mode it succeeds exactly
when no identity's data files add up past the size limit. In schema mode it succeeds
exactly when there is a database declaration, database declarations do not repeat a schema
and table declarations do not repeat an identity (unless duplicates are tolerated), every
table declaration names a declared database, every data file has a table declaration, and
no identity's data files add up past the size limit; when it fails, the fault is that of
the first record, in processing order, that fails its check. -/
theorem build_succeeds_iff_first_fault (B : Buckets) (tol : Bool) :
    ((∃ dbs, build {} B ⟨false, tol⟩ = .ok dbs) ↔ SizesFit B.tableData) ∧
    ((∃ dbs, build {} B ⟨true, tol⟩ = .ok dbs) ↔
      B.databaseSchemas ≠ [] ∧ DeclarationsPass tol B.databaseSchemas ∧
        TablesPass tol B.databaseSchemas B.tableSchemas ∧
          DataPass B.tableSchemas B.tableData) ∧
    (∀ e, build {} B ⟨true, tol⟩ = .error e ↔ SchemaFault tol B e) :=
  ⟨(build_free_outcome tol B).succeeds, (build_schema_outcome tol B).succeeds,
    (build_schema_outcome tol B).error⟩

/-- The size limit is checked as each data file is added, so in schema mode a table whose
files pass it stops the build before a later data file without a table declaration is
reached: every declaration below passes, the third data file has no table declaration, and
the fault is the size overflow. -/
theorem build_overflow_precedes_missing_table :
    let B : Buckets :=
      { databaseSchemas := [⟨"a", some ⟨"a-schema-create.sql", 0, .databaseSchema, .none, ""⟩⟩]
        tableSchemas := [⟨⟨"a", "t"⟩, ⟨"a.t-schema.sql", 0, .tableSchema, .none, ""⟩⟩]
        tableData := [⟨⟨"a", "t"⟩, ⟨"a.t.1.sql", 18446744073709551615, .data .sql, .none, "1"⟩⟩,
          ⟨⟨"a", "t"⟩, ⟨"a.t.2.sql", 1, .data .sql, .none, "2"⟩⟩,
          ⟨⟨"a", "u"⟩, ⟨"a.u.sql", 0, .data .sql, .none, ""⟩⟩] }
    DeclarationsPass false B.databaseSchemas ∧
      TablesPass false B.databaseSchemas B.tableSchemas ∧
      (⟨"a", "u"⟩ : TableName) ∉ B.tableSchemas.map (·.name) ∧
      build {} B ⟨true, false⟩ = .error .sizeOverflow := by
  refine ⟨by decide, by decide, by decide, ?_⟩
  rfl

end Builder

end DumpTopology
