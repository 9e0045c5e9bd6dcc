import DumpTopology.Proofs.Builder.Contents

/-!
# What a successful build looks like

Building keeps the first of everything. In schema mode the databases are the schemas of the
database declarations in order of first occurrence, each with the file of its first
declaration, and the tables of a database are the identities of its table declarations in
order of first occurrence, each with the file of its first declaration
(`Buckets.declaredShape`). Outside schema mode the declarations play no part: databases and
tables are those of the data files, in order of first occurrence, without declarations
(`Buckets.dataShape`). In both modes a table holds the data files of its identity in bucket
order, with their total size.

The proof follows the builder's lists without the data: its skeleton keeps each database's
name and declaration and each table's identity. Naming a table that is new appends it to
the database of its schema, creating that database first when needed, and changing a table
without renaming it leaves the skeleton as it was. The declarations and data files of the
tables are kept apart, position by position, as `Declares` and `Filed`.
-/
namespace DumpTopology

/-! ## First occurrences -/

section FirstByKey

variable {α β : Type} [DecidableEq β] (key : α → β)

/-- The elements of a list that come first for their key, in order. -/
def firstByKey (l : List α) : List α :=
  l.foldl (fun acc x => if key x ∈ acc.map key then acc else acc ++ [x]) []

@[simp] theorem firstByKey_nil : firstByKey key [] = [] := rfl

theorem firstByKey_append_singleton (l : List α) (x : α) :
    firstByKey key (l ++ [x]) =
      if key x ∈ (firstByKey key l).map key then firstByKey key l
      else firstByKey key l ++ [x] := by
  simp [firstByKey, List.foldl_append]

variable {key}

theorem mem_map_firstByKey {l : List α} {k : β} :
    k ∈ (firstByKey key l).map key ↔ k ∈ l.map key := by
  induction l using List.reverseRecOn generalizing k with
  | nil => simp
  | append_singleton l x ih =>
    rw [firstByKey_append_singleton]
    split
    · rename_i hx
      rw [ih, mem_map_append_singleton_iff (ih.mp hx)]
    · simp only [List.map_append, List.mem_append, ih, List.map_cons, List.map_nil,
        List.mem_singleton]

theorem firstByKey_append_singleton_of_mem {l : List α} {x : α} (hx : key x ∈ l.map key) :
    firstByKey key (l ++ [x]) = firstByKey key l := by
  rw [firstByKey_append_singleton, if_pos (mem_map_firstByKey.mpr hx)]

theorem firstByKey_append_singleton_of_not_mem {l : List α} {x : α} (hx : key x ∉ l.map key) :
    firstByKey key (l ++ [x]) = firstByKey key l ++ [x] := by
  rw [firstByKey_append_singleton, if_neg (mt mem_map_firstByKey.mp hx)]

theorem nodup_map_firstByKey (l : List α) : ((firstByKey key l).map key).Nodup := by
  induction l using List.reverseRecOn with
  | nil => simp
  | append_singleton l x ih =>
    rw [firstByKey_append_singleton]
    split
    · exact ih
    · rename_i hx
      rw [List.map_append, List.nodup_append]
      exact ⟨ih, by simp, fun a ha b hb => by
        obtain rfl := List.mem_singleton.mp hb
        exact fun he => hx (he ▸ ha)⟩

/-- An element that comes first for its key is what a search by its key finds. -/
theorem find?_of_mem_firstByKey {l : List α} {x : α} (hx : x ∈ firstByKey key l) :
    l.find? (fun y => key y = key x) = some x := by
  induction l using List.reverseRecOn with
  | nil => cases hx
  | append_singleton l y ih =>
    rw [List.find?_append]
    by_cases hy : key y ∈ l.map key
    · rw [firstByKey_append_singleton_of_mem hy] at hx
      rw [ih hx]
      rfl
    · rw [firstByKey_append_singleton_of_not_mem hy] at hx
      rcases List.mem_append.mp hx with hx | hx
      · rw [ih hx]
        rfl
      · -- the element is the last one, and no earlier element has its key
        obtain rfl := List.mem_singleton.mp hx
        have hnone : l.find? (fun z => key z = key x) = none := by
          rw [List.find?_eq_none]
          intro z hz hzx
          exact hy (List.mem_map.mpr ⟨z, hz, of_decide_eq_true hzx⟩)
        simp [hnone]

end FirstByKey

/-! ## The shapes -/

/-- The first declaration file of an identity among table declarations. -/
def firstFile (tables : List ClassifiedFile) (id : TableName) : Option SourceFile :=
  (tables.find? (·.name = id)).map (·.file)

/-- A table as building makes it: its identity and declaration, and the data files of its
identity with their total size. -/
def tableOf (files : List ClassifiedFile) (id : TableName) (decl : Option SourceFile) :
    TableMeta :=
  { db := id.schema, name := id.name, schemaFile := decl, dataFiles := filesOf files id,
    totalSize := dataSize files id }

/-- The databases that building in schema mode makes: one for each schema of the database
declarations, in order of first occurrence, with the file of its first declaration; in it,
one table for each identity of its table declarations, in order of first occurrence, with
the file of its first declaration; and in each table the data files of its identity. -/
def Buckets.declaredShape (B : Buckets) : List DatabaseMeta :=
  (firstByKey (·.schema) B.databaseSchemas).map fun d =>
    { name := d.schema, schemaFile := d.file,
      tables := (firstByKey (·.name) (B.tableSchemas.filter (·.name.schema = d.schema))).map
        fun r => tableOf B.tableData r.name (some r.file) }

/-- The databases that building outside schema mode makes: one for each schema of the data
files, in order of first occurrence, and in it one table for each identity of its data files,
in order of first occurrence, all without declarations; in each table the data files of its
identity. -/
def Buckets.dataShape (B : Buckets) : List DatabaseMeta :=
  (firstByKey (·.name.schema) B.tableData).map fun r =>
    { name := r.name.schema,
      tables := (firstByKey (·.name) (B.tableData.filter (·.name.schema = r.name.schema))).map
        fun r' => tableOf B.tableData r'.name none }

/-! ## Skeletons -/

/-- A table reduced to its identity. -/
def TableMeta.bare (t : TableMeta) : TableMeta := { db := t.db, name := t.name }

/-- A database with its tables reduced to their identities. -/
def DatabaseMeta.bare (d : DatabaseMeta) : DatabaseMeta :=
  { d with tables := d.tables.map TableMeta.bare }

/-- The builder's databases with each table reduced to its identity. -/
def Builder.skeleton (b : Builder) : List DatabaseMeta := b.databases.map DatabaseMeta.bare

/-- The tables, reduced to their identities, that records of a schema make: one for each
identity in order of first occurrence. -/
def bareTables (records : List ClassifiedFile) (s : String) : List TableMeta :=
  (firstByKey (·.name) (records.filter (·.name.schema = s))).map
    fun r => { db := r.name.schema, name := r.name.name }

/-- Appends a table of an identity to the database of its schema. -/
def addTableTo (id : TableName) (dbs : List DatabaseMeta) : List DatabaseMeta :=
  dbs.map fun d =>
    if d.name = id.schema then { d with tables := d.tables ++ [{ db := id.schema, name := id.name }] }
    else d

/-- Appends a database of a name, without declaration, unless there is one. -/
def withDatabase (s : String) (dbs : List DatabaseMeta) : List DatabaseMeta :=
  if s ∈ dbs.map (·.name) then dbs else dbs ++ [{ name := s }]

theorem TableMeta.bare_eq_of_identity {t t' : TableMeta} (h : t.identity = t'.identity) :
    t.bare = t'.bare := by
  have hdb : t.db = t'.db := congrArg TableName.schema h
  have hname : t.name = t'.name := congrArg TableName.name h
  simp only [TableMeta.bare, hdb, hname]

@[simp] theorem TableMeta.identity_bare (t : TableMeta) : t.bare.identity = t.identity := rfl

@[simp] theorem DatabaseMeta.name_bare (d : DatabaseMeta) : d.bare.name = d.name := rfl

theorem Builder.map_name_skeleton (b : Builder) : b.skeleton.map (·.name) = b.names := by
  simp [Builder.skeleton, Builder.names, Function.comp_def]

/-- Changing an element in a way that a function does not see leaves the function's image
of the list as it was. -/
theorem map_modify_eq_map {α β : Type} {f : α → α} {g : α → β} (hg : ∀ x, g (f x) = g x)
    (l : List α) (j : Nat) : (l.modify j f).map g = l.map g := by
  apply List.ext_getElem?
  intro i
  simp only [List.getElem?_map, List.getElem?_modify]
  cases l[i]? with
  | none => rfl
  | some x => by_cases h : j = i <;> simp [h, hg]

namespace Builder

/-- Changing a table without renaming it leaves the skeleton as it was. -/
theorem skeleton_modifyTable (b : Builder) (pos : Nat × Nat) {f : TableMeta → TableMeta}
    (hf : ∀ t, (f t).identity = t.identity) : (b.modifyTable pos f).skeleton = b.skeleton := by
  have htables : ∀ d : DatabaseMeta,
      ({ d with tables := d.tables.modify pos.2 f } : DatabaseMeta).bare = d.bare := fun d => by
    simp only [DatabaseMeta.bare,
      map_modify_eq_map (fun t => TableMeta.bare_eq_of_identity (hf t))]
  exact map_modify_eq_map htables b.databases pos.1

/-- Appending a table to the database of its schema appends it in the skeleton. -/
theorem skeleton_appendTable {b : Builder} (hnd : b.names.Nodup) {i : Nat} {id : TableName}
    (hi : b.names[i]? = some id.schema) :
    (b.appendTable i id).1.skeleton = addTableTo id b.skeleton := by
  apply List.ext_getElem?
  intro k
  simp only [skeleton, appendTable, addTableTo, List.getElem?_map, List.getElem?_modify]
  cases hk : b.databases[k]? with
  | none => rfl
  | some d =>
    by_cases hik : i = k
    · -- the database of the schema receives the table
      subst hik
      have hname : d.name = id.schema := by simpa [names, hk] using hi
      simp [hname, DatabaseMeta.bare, TableMeta.bare]
    · -- every other database has another name
      have hne : d.name ≠ id.schema := fun he => by
        have hk' : b.names[k]? = some id.schema := by simp [names, hk, he]
        have hlt : i < b.names.length := (List.getElem?_eq_some_iff.mp hi).1
        exact hik ((List.getElem?_inj hlt hnd).mp (hi.trans hk'.symm))
      simp [hik, hne]

namespace Coherent

variable {b : Builder} (h : b.Coherent)
include h

theorem skeleton_databaseHandle (name : String) (decl : Option SourceFile) :
    (b.databaseHandle name decl).1.skeleton =
      if name ∈ b.names then b.skeleton else b.skeleton ++ [{ name, schemaFile := decl }] := by
  rw [skeleton, h.databaseHandle_databases]
  split <;> simp [skeleton, DatabaseMeta.bare]

/-- Naming a table that is new appends it to the database of its schema, creating that
database first when there is none. -/
theorem skeleton_tableHandle (id : TableName) :
    (b.tableHandle id).1.skeleton =
      if id ∈ b.identities then b.skeleton
      else addTableTo id (withDatabase id.schema b.skeleton) := by
  by_cases hid : id ∈ b.identities
  · obtain ⟨pos, he, -⟩ := h.tableHandle_of_mem hid
    rw [he, if_pos hid]
  · rw [h.tableHandle_of_not_mem hid, if_neg hid]
    have h₁ := h.databaseHandle id.schema none
    rw [skeleton_appendTable h₁.names_nodup (h.databaseHandle_position id.schema none),
      h.skeleton_databaseHandle, withDatabase, map_name_skeleton]

end Coherent

end Builder

/-! ## The skeletons of the records -/

/-- The skeleton that declarations make: one database for each declared schema, in order of
first occurrence, with the file of its first declaration, and in it the tables that the table
declarations of its schema make. -/
def declaredSkeleton (decls : List SchemaDeclaration) (tables : List ClassifiedFile) :
    List DatabaseMeta :=
  (firstByKey (·.schema) decls).map fun d =>
    { name := d.schema, schemaFile := d.file, tables := bareTables tables d.schema }

/-- The skeleton that data files make alone: one database for each schema, in order of first
occurrence, and in it the tables that the files of its schema make. -/
def dataSkeleton (files : List ClassifiedFile) : List DatabaseMeta :=
  (firstByKey (·.name.schema) files).map fun r =>
    { name := r.name.schema, tables := bareTables files r.name.schema }

section Records

variable {l : List ClassifiedFile} {r : ClassifiedFile}

theorem schema_mem_of_name_mem (h : r.name ∈ l.map (·.name)) :
    r.name.schema ∈ l.map (·.name.schema) := by
  obtain ⟨r', hr', he⟩ := List.mem_map.mp h
  exact List.mem_map.mpr ⟨r', hr', congrArg TableName.schema he⟩

/-- A record of an identity seen before adds no table. -/
theorem bareTables_append_singleton_of_mem (h : r.name ∈ l.map (·.name)) (s : String) :
    bareTables (l ++ [r]) s = bareTables l s := by
  unfold bareTables
  by_cases hs : r.name.schema = s
  · have hin : r.name ∈ (l.filter (·.name.schema = s)).map (·.name) := by
      obtain ⟨r', hr', he⟩ := List.mem_map.mp h
      refine List.mem_map.mpr ⟨r', List.mem_filter.mpr ⟨hr', ?_⟩, he⟩
      simp [he, hs]
    rw [List.filter_append, List.filter_cons_of_pos (by simpa using hs), List.filter_nil,
      firstByKey_append_singleton_of_mem hin]
  · rw [List.filter_append, List.filter_cons_of_neg (by simpa using hs), List.filter_nil,
      List.append_nil]

/-- A record of a new identity adds its table, last, to the tables of its schema. -/
theorem bareTables_append_singleton_of_not_mem (h : r.name ∉ l.map (·.name)) (s : String) :
    bareTables (l ++ [r]) s =
      if r.name.schema = s then bareTables l s ++ [{ db := r.name.schema, name := r.name.name }]
      else bareTables l s := by
  unfold bareTables
  by_cases hs : r.name.schema = s
  · have hout : r.name ∉ (l.filter (·.name.schema = s)).map (·.name) := fun hin => by
      obtain ⟨r', hr', he⟩ := List.mem_map.mp hin
      exact h (List.mem_map.mpr ⟨r', (List.mem_filter.mp hr').1, he⟩)
    rw [List.filter_append, List.filter_cons_of_pos (by simpa using hs), List.filter_nil,
      firstByKey_append_singleton_of_not_mem hout, if_pos hs, List.map_append]
    rfl
  · rw [List.filter_append, List.filter_cons_of_neg (by simpa using hs), List.filter_nil,
      List.append_nil, if_neg hs]

theorem bareTables_eq_nil (h : ∀ r ∈ l, r.name.schema ≠ s) : bareTables l s = [] := by
  have hnil : l.filter (·.name.schema = s) = [] :=
    List.filter_eq_nil_iff.mpr fun r hr => by simpa using h r hr
  simp [bareTables, hnil]

theorem declaredSkeleton_append_singleton_of_mem (decls : List SchemaDeclaration)
    (h : r.name ∈ l.map (·.name)) :
    declaredSkeleton decls (l ++ [r]) = declaredSkeleton decls l := by
  simp only [declaredSkeleton, bareTables_append_singleton_of_mem h]

/-- A table declaration of a new identity adds its table to the database of its schema. -/
theorem addTableTo_declaredSkeleton (decls : List SchemaDeclaration)
    (h : r.name ∉ l.map (·.name)) :
    addTableTo r.name (declaredSkeleton decls l) = declaredSkeleton decls (l ++ [r]) := by
  simp only [addTableTo, declaredSkeleton, List.map_map]
  refine List.map_congr_left fun d _ => ?_
  rw [Function.comp_apply, bareTables_append_singleton_of_not_mem h]
  by_cases hs : d.schema = r.name.schema
  · simp [hs]
  · simp [hs, Ne.symm hs]

theorem map_name_dataSkeleton (files : List ClassifiedFile) :
    (dataSkeleton files).map (·.name) = (firstByKey (·.name.schema) files).map (·.name.schema) := by
  simp [dataSkeleton, Function.comp_def]

/-- A data file adds its table when its identity is new, and its database first when its
schema is new too. -/
theorem dataSkeleton_append_singleton (files : List ClassifiedFile) (r : ClassifiedFile) :
    dataSkeleton (files ++ [r]) =
      if r.name ∈ files.map (·.name) then dataSkeleton files
      else addTableTo r.name (withDatabase r.name.schema (dataSkeleton files)) := by
  split
  · rename_i hid
    simp only [dataSkeleton, firstByKey_append_singleton_of_mem (schema_mem_of_name_mem hid),
      bareTables_append_singleton_of_mem hid]
  · rename_i hid
    have hnew (s : String) := bareTables_append_singleton_of_not_mem hid s
    by_cases hs : r.name.schema ∈ files.map (·.name.schema)
    · -- the schema has its database: the table joins it
      rw [withDatabase, map_name_dataSkeleton, if_pos (mem_map_firstByKey.mpr hs)]
      simp only [addTableTo, dataSkeleton, firstByKey_append_singleton_of_mem hs, List.map_map]
      refine List.map_congr_left fun r' _ => ?_
      rw [Function.comp_apply, hnew]
      by_cases hr : r'.name.schema = r.name.schema
      · simp [hr]
      · simp [hr, Ne.symm hr]
    · -- a new schema: its database comes last, with the one table
      have hother : ∀ r' ∈ firstByKey (·.name.schema) files, r'.name.schema ≠ r.name.schema :=
        fun r' hr' he => hs (he ▸ mem_map_firstByKey.mp (List.mem_map_of_mem hr'))
      have hempty : bareTables files r.name.schema = [] :=
        bareTables_eq_nil fun r' hr' he => hs (he ▸ List.mem_map_of_mem hr')
      rw [withDatabase, map_name_dataSkeleton, if_neg (mt mem_map_firstByKey.mp hs)]
      simp only [addTableTo, dataSkeleton, firstByKey_append_singleton_of_not_mem hs,
        List.map_append, List.map_map, List.map_cons, List.map_nil]
      congr 1
      · refine List.map_congr_left fun r' hr' => ?_
        rw [Function.comp_apply, hnew, if_neg (Ne.symm (hother r' hr'))]
        simp [hother r' hr']
      · simp [hnew, hempty]

end Records

/-! ## The declarations of the tables -/

section FirstFile

variable {l : List ClassifiedFile} {r : ClassifiedFile}

theorem firstFile_append_singleton (l : List ClassifiedFile) (r : ClassifiedFile)
    (id : TableName) :
    firstFile (l ++ [r]) id = (firstFile l id).or (if r.name = id then some r.file else none) := by
  unfold firstFile
  rw [List.find?_append, List.find?_singleton]
  cases l.find? (·.name = id) <;> by_cases h : r.name = id <;> simp [h]

theorem firstFile_eq_none {id : TableName} : firstFile l id = none ↔ id ∉ l.map (·.name) := by
  simp [firstFile]

theorem firstFile_append_singleton_of_mem (h : r.name ∈ l.map (·.name)) :
    firstFile (l ++ [r]) = firstFile l := by
  funext id
  rw [firstFile_append_singleton]
  by_cases hid : r.name = id
  · -- the identity was declared before, and its first declaration stays first
    subst hid
    obtain ⟨f, hf⟩ := Option.ne_none_iff_exists'.mp (mt firstFile_eq_none.mp (not_not.mpr h))
    simp [hf]
  · simp [hid]

theorem firstFile_append_singleton_of_ne {id : TableName} (h : r.name ≠ id) :
    firstFile (l ++ [r]) id = firstFile l id := by
  simp [firstFile_append_singleton, h]

theorem mem_of_mem_firstByKey {α β : Type} [DecidableEq β] {key : α → β} {l : List α} {x : α}
    (hx : x ∈ firstByKey key l) : x ∈ l := by
  induction l using List.reverseRecOn with
  | nil => cases hx
  | append_singleton l y ih =>
    rw [firstByKey_append_singleton] at hx
    split at hx
    · exact List.mem_append_left _ (ih hx)
    · rcases List.mem_append.mp hx with hx | hx
      · exact List.mem_append_left _ (ih hx)
      · exact List.mem_append_right _ hx

/-- A declaration that comes first for its identity among those of its schema is the first
declaration of its identity. -/
theorem firstFile_of_mem_firstByKey {s : String}
    (hr : r ∈ firstByKey (·.name) (l.filter (·.name.schema = s))) :
    firstFile l r.name = some r.file := by
  have hfind := find?_of_mem_firstByKey hr
  have hs : r.name.schema = s := by
    simpa using (List.mem_filter.mp (mem_of_mem_firstByKey hr)).2
  -- a record of the identity is of the schema, so the schema test adds nothing
  have hsame : l.find? (fun a => decide (a.name = r.name)) =
      (l.filter (·.name.schema = s)).find? (fun a => decide (a.name = r.name)) := by
    rw [List.find?_filter]
    congr 1
    funext a
    by_cases ha : a.name = r.name
    · simp [ha, hs]
    · simp [ha]
  rw [firstFile, hsame, hfind]
  rfl

end FirstFile

namespace Builder

/-- Every table carries the first declaration file of its identity among some table
declarations. -/
def Declares (tables : List ClassifiedFile) (b : Builder) : Prop :=
  ∀ pos t, b.tableEntry pos = some t → t.schemaFile = firstFile tables t.identity

section Declares

variable {tables : List ClassifiedFile} {b : Builder}

theorem Declares.of_identities_nil (h : b.identities = []) : Declares tables b := by
  intro pos t ht
  have hmem := mem_identities_iff_tableEntry.mpr ⟨pos, t, ht, rfl⟩
  rw [h] at hmem
  cases hmem

theorem Declares.of_mem (hd : Declares tables b) {d : DatabaseMeta} (hdb : d ∈ b.databases)
    {t : TableMeta} (ht : t ∈ d.tables) : t.schemaFile = firstFile tables t.identity := by
  obtain ⟨i, hi⟩ := List.mem_iff_getElem?.mp hdb
  obtain ⟨j, hj⟩ := List.mem_iff_getElem?.mp ht
  exact hd (i, j) t (tableEntry_eq_some.mpr ⟨d, hi, hj⟩)

/-- A table that naming creates has no declaration, which suits an identity without one. -/
theorem Declares.tableHandle (h : b.Coherent) (hd : Declares tables b) (id : TableName)
    (hnew : id ∉ b.identities → firstFile tables id = none) :
    Declares tables (b.tableHandle id).1 := by
  intro q t ht
  rw [h.tableEntry_tableHandle] at ht
  split at ht
  · rename_i hq
    cases ht
    exact (hnew hq.2).symm
  · exact hd q t ht

theorem Declares.modifyTable (hd : Declares tables b) (pos : Nat × Nat)
    {f : TableMeta → TableMeta} (hid : ∀ t, (f t).identity = t.identity)
    (hsf : ∀ t, (f t).schemaFile = t.schemaFile) : Declares tables (b.modifyTable pos f) := by
  intro q t ht
  rw [tableEntry_modifyTable] at ht
  split at ht
  · obtain ⟨t₀, ht₀, rfl⟩ := Option.map_eq_some_iff.mp ht
    rw [hsf, hid]
    exact hd _ t₀ ht₀
  · exact hd q t ht

end Declares

/-- Adding data to a builder names the file's table, then appends the file to it; in schema
mode the table existed. -/
theorem addData_eq_ok {policy : BuildPolicy} {b b' : Builder} {r : ClassifiedFile}
    (h : addData policy b r = .ok b') :
    ∃ total, b' = (b.tableHandle r.name).1.modifyTable (b.tableHandle r.name).2.1
        (fun t => { t with totalSize := total, dataFiles := t.dataFiles ++ [r.file] }) ∧
      (policy.schemaMode = true → (b.tableHandle r.name).2.2.2 = true) := by
  unfold addData at h
  rcases hth : b.tableHandle r.name with ⟨b₁, pos, e₁, e₂⟩
  rw [hth] at h
  simp only at h
  split at h
  · cases h
  split at h
  · cases h
  rename_i hdb htab
  cases hc : checkedSize ((b₁.tableAt pos).totalSize + r.file.size) with
  | error e => rw [hc] at h; cases h
  | ok total =>
    rw [hc] at h
    cases h
    refine ⟨total, rfl, fun hsm => ?_⟩
    simpa [hsm] using htab

/-! ## The three phases -/

section Phases

variable {decls : List SchemaDeclaration} {tables files : List ClassifiedFile} {b b' : Builder}
  {r : ClassifiedFile}

/-- The state after a prefix of database declarations. -/
structure DatabasesShaped (pre : List SchemaDeclaration) (b : Builder) : Prop where
  declared : Declared pre b
  skeleton : b.skeleton = declaredSkeleton pre []

/-- The state after a prefix of table declarations. -/
structure TablesShaped (decls : List SchemaDeclaration) (pre : List ClassifiedFile)
    (b : Builder) : Prop where
  declared : TablesDeclared decls pre b
  skeleton : b.skeleton = declaredSkeleton decls pre
  declares : Declares pre b

/-- The state after a prefix of data files in schema mode: the skeleton and declarations of
the tables stay as the declarations made them. -/
structure DataShaped (decls : List SchemaDeclaration) (tables pre : List ClassifiedFile)
    (b : Builder) : Prop where
  added : DataAdded true decls tables pre b
  skeleton : b.skeleton = declaredSkeleton decls tables
  declares : Declares tables b

/-- The state after a prefix of data files outside schema mode. -/
structure FreeShaped (pre : List ClassifiedFile) (b : Builder) : Prop where
  added : DataAdded false [] [] pre b
  skeleton : b.skeleton = dataSkeleton pre
  identities : ∀ id, id ∈ b.identities ↔ id ∈ pre.map (·.name)
  declares : Declares [] b

theorem DatabasesShaped.declareDatabase {pre : List SchemaDeclaration} {d : SchemaDeclaration}
    (policy : BuildPolicy) (hb : DatabasesShaped pre b)
    (h : Builder.declareDatabase policy b d = .ok b') : DatabasesShaped (pre ++ [d]) b' where
  declared := (declareDatabase_checked policy).ok_of_step hb.declared h
  skeleton := by
    obtain ⟨hc, hnames, -⟩ := hb.declared
    have hb' : b' = (b.databaseHandle d.schema d.file).1 := by
      rw [declareDatabase_eq hc] at h
      split at h
      · cases h
      · exact (Except.ok.inj h).symm
    rw [hb', hc.skeleton_databaseHandle, hb.skeleton]
    by_cases hd : d.schema ∈ pre.map (·.schema)
    · rw [if_pos ((hnames _).mpr hd), declaredSkeleton, declaredSkeleton,
        firstByKey_append_singleton_of_mem hd]
    · rw [if_neg (mt (hnames _).mp hd), declaredSkeleton, declaredSkeleton,
        firstByKey_append_singleton_of_not_mem hd, List.map_append]
      simp [bareTables]

/-- Declaring a new identity gives its new table the declaration, and leaves every other
table's declaration, which is that of another identity, as it was. -/
theorem Declares.declareNew (hc : b.Coherent) (hd : Declares tables b)
    (hq : r.name ∉ tables.map (·.name)) :
    Declares (tables ++ [r]) ((b.tableHandle r.name).1.modifyTable (b.tableHandle r.name).2.1
      fun t => { t with schemaFile := some r.file }) := by
  have hc₁ := hc.tableHandle r.name
  have hd₁ : Declares tables (b.tableHandle r.name).1 :=
    hd.tableHandle hc r.name fun _ => firstFile_eq_none.mpr hq
  obtain ⟨t₀, ht₀, hid₀, -⟩ := hc.tableHandle_position r.name
  intro p t ht
  rw [tableEntry_modifyTable] at ht
  split at ht
  · rename_i hp
    subst hp
    rw [ht₀] at ht
    cases ht
    show some r.file = firstFile (tables ++ [r]) t₀.identity
    rw [hid₀, firstFile_append_singleton, firstFile_eq_none.mpr hq]
    simp
  · rename_i hp
    have hne : r.name ≠ t.identity := fun he =>
      hp (hc₁.position_unique ht ht₀ (hid₀.trans he).symm)
    rw [hd₁ p t ht, firstFile_append_singleton_of_ne hne]

theorem TablesShaped.declareTable (policy : BuildPolicy) (hb : TablesShaped decls tables b)
    (h : Builder.declareTable policy b r = .ok b') : TablesShaped decls (tables ++ [r]) b' := by
  have hdecl := (declareTable_checked policy decls).ok_of_step hb.declared h
  obtain ⟨hc, -, hids, -⟩ := hb.declared
  rw [declareTable_eq hc] at h
  split at h
  · cases h
  rename_i hs
  split at h
  · -- a repeated declaration, tolerated: nothing changes
    rename_i hid
    have hq : r.name ∈ tables.map (·.name) := (hids _).mp hid
    split at h
    · cases h
      refine ⟨hdecl, ?_, ?_⟩
      · rw [hb.skeleton, declaredSkeleton_append_singleton_of_mem decls hq]
      · unfold Declares
        rw [firstFile_append_singleton_of_mem hq]
        exact hb.declares
    · cases h
  · -- a new identity: its table is appended to its database and given the declaration
    rename_i hid
    have hq : r.name ∉ tables.map (·.name) := fun h => hid ((hids _).mpr h)
    cases h
    refine ⟨hdecl, ?_, hb.declares.declareNew hc hq⟩
    rw [skeleton_modifyTable _ _ (identity_set_schemaFile r.file), hc.skeleton_tableHandle,
      if_neg hid, withDatabase, map_name_skeleton, if_pos (not_not.mp hs), hb.skeleton,
      addTableTo_declaredSkeleton decls hq]

theorem DataShaped.addData (tol : Bool) (hb : DataShaped decls tables files b)
    (h : Builder.addData ⟨true, tol⟩ b r = .ok b') : DataShaped decls tables (files ++ [r]) b' := by
  have hadd := (addData_checked ⟨true, tol⟩ decls tables).ok_of_step hb.added h
  obtain ⟨hc, -, -⟩ := hb.added
  obtain ⟨total, rfl, hexisted⟩ := addData_eq_ok h
  -- in schema mode the file's table exists, so naming it changes nothing
  have hid : r.name ∈ b.identities := by
    have he := hexisted rfl
    rw [hc.tableHandle_existed] at he
    simpa using he
  obtain ⟨pos, hth, -⟩ := hc.tableHandle_of_mem hid
  simp only [hth] at hadd ⊢
  exact ⟨hadd, by rw [skeleton_modifyTable _ _ (identity_add_file total r.file), hb.skeleton],
    hb.declares.modifyTable pos (identity_add_file total r.file) fun _ => rfl⟩

theorem FreeShaped.addData (tol : Bool) (hb : FreeShaped files b)
    (h : Builder.addData ⟨false, tol⟩ b r = .ok b') : FreeShaped (files ++ [r]) b' := by
  have hadd := (addData_checked ⟨false, tol⟩ [] []).ok_of_step hb.added h
  obtain ⟨hc, -, -⟩ := hb.added
  obtain ⟨total, rfl, -⟩ := addData_eq_ok h
  refine ⟨hadd, ?_, fun id => ?_, ?_⟩
  · rw [skeleton_modifyTable _ _ (identity_add_file total r.file), hc.skeleton_tableHandle,
      hb.skeleton, dataSkeleton_append_singleton]
    by_cases hid : r.name ∈ b.identities
    · rw [if_pos hid, if_pos ((hb.identities _).mp hid)]
    · rw [if_neg hid, if_neg (mt (hb.identities _).mpr hid)]
  · rw [mem_identities_modifyTable (identity_add_file total r.file),
      hc.mem_identities_tableHandle, hb.identities]
    simp
  · exact (hb.declares.tableHandle hc r.name fun _ => rfl).modifyTable _
      (identity_add_file total r.file) fun _ => rfl

end Phases

/-! ## The databases built -/

/-- A database of a skeleton with its tables filled in: each with the first declaration of
its identity among some table declarations, and the data files of its identity. -/
def fillTables (files tables : List ClassifiedFile) (d : DatabaseMeta) : DatabaseMeta :=
  { d with tables := d.tables.map fun t => tableOf files t.identity (firstFile tables t.identity) }

/-- A coherent builder whose tables hold the files of a list and the declarations of another
is its skeleton filled in. -/
theorem databases_eq_fillTables {files tables : List ClassifiedFile} {b : Builder}
    (hf : Filed files b) (hd : Declares tables b) :
    b.databases = b.skeleton.map (fillTables files tables) := by
  rw [skeleton, List.map_map]
  conv_lhs => rw [← List.map_id b.databases]
  refine List.map_congr_left fun d hdb => ?_
  have htables : d.tables.map (fun t => tableOf files t.identity (firstFile tables t.identity)) =
      d.tables := by
    conv_rhs => rw [← List.map_id d.tables]
    refine List.map_congr_left fun t ht => ?_
    obtain ⟨hfiles, hsize⟩ := hf.of_mem hdb ht
    rw [tableOf, ← hfiles, ← hsize, ← hd.of_mem hdb ht]
    rfl
  simp only [id, Function.comp_apply, fillTables, DatabaseMeta.bare, List.map_map]
  exact congrArg (fun ts => { d with tables := ts }) htables.symm

theorem declaredSkeleton_fillTables (B : Buckets) :
    (declaredSkeleton B.databaseSchemas B.tableSchemas).map
      (fillTables B.tableData B.tableSchemas) = B.declaredShape := by
  simp only [declaredSkeleton, Buckets.declaredShape, List.map_map]
  refine List.map_congr_left fun d _ => ?_
  simp only [Function.comp_apply, fillTables, bareTables, List.map_map]
  congr 1
  refine List.map_congr_left fun r hr => ?_
  simp only [Function.comp_apply]
  rw [show ({ db := r.name.schema, name := r.name.name } : TableMeta).identity = r.name from rfl,
    firstFile_of_mem_firstByKey hr]

theorem dataSkeleton_fillTables (B : Buckets) :
    (dataSkeleton B.tableData).map (fillTables B.tableData []) = B.dataShape := by
  simp only [dataSkeleton, Buckets.dataShape, List.map_map]
  refine List.map_congr_left fun r _ => ?_
  simp only [Function.comp_apply, fillTables, bareTables, List.map_map]
  rfl

/-- Building in schema mode from an empty builder, when it succeeds, gives the databases and
tables of the first declarations. -/
theorem build_schema_shape {B : Buckets} {tol : Bool} {dbs : List DatabaseMeta}
    (h : build {} B ⟨true, tol⟩ = .ok dbs) : dbs = B.declaredShape := by
  rw [build_schema_eq, except_bind_eq_ok] at h
  obtain ⟨b₂, hdecl, h⟩ := h
  rw [except_bind_eq_ok] at h
  obtain ⟨b₃, hdata, h⟩ := h
  obtain rfl := (except_pure_eq_ok.mp h).symm
  rw [declare_eq] at hdecl
  split at hdecl
  · cases hdecl
  rw [except_bind_eq_ok] at hdecl
  obtain ⟨b₁, hdb, htab⟩ := hdecl
  -- the database declarations, then the table declarations, then the data files
  have h₁ : DatabasesShaped B.databaseSchemas b₁ :=
    foldlM_ok_invariant (fun hb hstep => hb.declareDatabase _ hstep) B.databaseSchemas
      ⟨declared_empty, rfl⟩ hdb
  have h₂ : TablesShaped B.databaseSchemas B.tableSchemas b₂ :=
    foldlM_ok_invariant (fun hb hstep => hb.declareTable _ hstep) B.tableSchemas
      ⟨tablesDeclared_of_declared h₁.declared, h₁.skeleton,
        Declares.of_identities_nil h₁.declared.2.2⟩ htab
  have h₃ : DataShaped B.databaseSchemas B.tableSchemas B.tableData b₃ :=
    foldlM_ok_invariant (fun hb hstep => hb.addData tol hstep) B.tableData
      ⟨dataAdded_of_tablesDeclared h₂.declared, h₂.skeleton, h₂.declares⟩ hdata
  rw [databases_eq_fillTables (by simpa using h₃.added.2.1) h₃.declares, h₃.skeleton]
  exact declaredSkeleton_fillTables B

/-- Building outside schema mode from an empty builder, when it succeeds, gives the databases
and tables of the data files. -/
theorem build_free_shape {B : Buckets} {tol : Bool} {dbs : List DatabaseMeta}
    (h : build {} B ⟨false, tol⟩ = .ok dbs) : dbs = B.dataShape := by
  rw [build_free_eq, except_bind_eq_ok] at h
  obtain ⟨b, hdata, h⟩ := h
  obtain rfl := (except_pure_eq_ok.mp h).symm
  have hb : FreeShaped B.tableData b :=
    foldlM_ok_invariant (fun hb hstep => hb.addData tol hstep) B.tableData
      ⟨⟨coherent_empty, Filed.of_identities_nil rfl, nofun⟩, rfl, by simp [identities],
        Declares.of_identities_nil rfl⟩ hdata
  rw [databases_eq_fillTables (by simpa using hb.added.2.1) hb.declares, hb.skeleton]
  exact dataSkeleton_fillTables B

/-- The shape of a successful build from an empty builder. In schema mode the databases are
the schemas of the database declarations in order of first occurrence, each with the file of
its first declaration, and the tables of each are the identities of its table declarations
in order of first occurrence, each with the file of its first declaration. Outside schema
mode the declarations are ignored: databases and tables are the schemas and identities of
the data files in order of first occurrence, without declarations. In both modes every table
holds the data files of its identity in bucket order, with their total size. -/
theorem build_ok_shape (B : Buckets) (tol : Bool) (dbs : List DatabaseMeta) :
    (build {} B ⟨true, tol⟩ = .ok dbs → dbs = B.declaredShape) ∧
      (build {} B ⟨false, tol⟩ = .ok dbs → dbs = B.dataShape) :=
  ⟨build_schema_shape, build_free_shape⟩

/-- Two table declarations in reverse order and three data files, two of one table: in schema
mode the tables come in declaration order, and outside it in data order, without the
database declaration. -/
theorem build_ok_shape_of_two_tables :
    let db : SourceFile := ⟨"db-schema-create.sql", 0, .databaseSchema, .none, ""⟩
    let tb : SourceFile := ⟨"db.b-schema.sql", 0, .tableSchema, .none, ""⟩
    let ta : SourceFile := ⟨"db.a-schema.sql", 0, .tableSchema, .none, ""⟩
    let a₁ : SourceFile := ⟨"db.a.1.sql", 7, .data .sql, .none, ""⟩
    let a₂ : SourceFile := ⟨"db.a.2.sql", 3, .data .sql, .none, ""⟩
    let b₁ : SourceFile := ⟨"db.b.sql", 1, .data .sql, .none, ""⟩
    let B : Buckets :=
      { databaseSchemas := [⟨"db", some db⟩]
        tableSchemas := [⟨⟨"db", "b"⟩, tb⟩, ⟨⟨"db", "a"⟩, ta⟩]
        tableData := [⟨⟨"db", "a"⟩, a₁⟩, ⟨⟨"db", "a"⟩, a₂⟩, ⟨⟨"db", "b"⟩, b₁⟩] }
    let declared : List DatabaseMeta :=
      [{ name := "db", schemaFile := some db,
         tables := [⟨"db", "b", some tb, [b₁], 1⟩, ⟨"db", "a", some ta, [a₁, a₂], 10⟩] }]
    let free : List DatabaseMeta :=
      [{ name := "db", tables := [⟨"db", "a", none, [a₁, a₂], 10⟩, ⟨"db", "b", none, [b₁], 1⟩] }]
    build {} B ⟨true, false⟩ = .ok declared ∧ declared = B.declaredShape ∧
      build {} B ⟨false, false⟩ = .ok free ∧ free = B.dataShape := by
  intro db tb ta a₁ a₂ b₁ B declared free
  have hdeclared : build {} B ⟨true, false⟩ = .ok declared := by rfl
  have hfree : build {} B ⟨false, false⟩ = .ok free := by rfl
  exact ⟨hdeclared, (build_ok_shape B false declared).1 hdeclared, hfree,
    (build_ok_shape B false free).2 hfree⟩

end Builder

end DumpTopology
