import DumpTopology.Assembly
import Mathlib.Data.List.Induction
import Mathlib.Data.List.Nodup

/-!
# The builder's indices

A builder keeps its databases in a list, each with its tables in a list, and two indices
into them: a database's position by its name, and a table's database and table positions
by its identity. `Builder.Coherent` says that the indices describe the lists exactly:
the database index holds a name at a position when the database there has that name,
and the table index holds an identity at a pair of positions when the table there has
that name and database and sits in the database of that name.

Every operation keeps this: naming a database, naming a table (which may create its
database first), and changing a table without renaming it. From it follow the facts the
rest of the development uses: database names are distinct, table names are distinct
within a database, every table names the database it sits in, and naming something that
exists changes nothing and says so.
-/
namespace DumpTopology

/-- The identity a table carries: the database it names and its own name. -/
def TableMeta.identity (t : TableMeta) : TableName := ⟨t.db, t.name⟩

@[simp] theorem TableMeta.identity_schema (t : TableMeta) : t.identity.schema = t.db := rfl
@[simp] theorem TableMeta.identity_name (t : TableMeta) : t.identity.name = t.name := rfl

namespace Builder

/-- The names of the databases, in order. -/
def names (b : Builder) : List String := b.databases.map (·.name)

/-- Each database's name with its declaration, in order. -/
def declarations (b : Builder) : List (String × Option SourceFile) :=
  b.databases.map fun d => (d.name, d.schemaFile)

/-- The table at a pair of positions, if there is one. -/
def tableEntry (b : Builder) (pos : Nat × Nat) : Option TableMeta :=
  (b.databases[pos.1]?).bind (·.tables[pos.2]?)

/-- The identities of the tables, database by database. -/
def identities (b : Builder) : List TableName :=
  b.databases.flatMap fun d => d.tables.map (·.identity)

/-- The indices describe the lists exactly, and every table names its database. -/
structure Coherent (b : Builder) : Prop where
  db_index : ∀ name i, b.dbIndex.lookup name = some i ↔ b.names[i]? = some name
  table_index : ∀ id pos, b.tableIndex.lookup id = some pos ↔
    b.names[pos.1]? = some id.schema ∧ (b.tableEntry pos).map (·.identity) = some id
  table_db : ∀ pos t, b.tableEntry pos = some t → b.names[pos.1]? = some t.db

@[grind =] theorem names_eq (b : Builder) : b.names = b.databases.map (·.name) := rfl

theorem tableAt_eq (b : Builder) (pos : Nat × Nat) :
    b.tableAt pos = (b.tableEntry pos).getD default := rfl

theorem mem_identities {b : Builder} {id : TableName} :
    id ∈ b.identities ↔ ∃ d ∈ b.databases, ∃ t ∈ d.tables, t.identity = id := by
  simp [identities]

@[simp] theorem tableEntry_eq_some {b : Builder} {pos : Nat × Nat} {t : TableMeta} :
    b.tableEntry pos = some t ↔
      ∃ d, b.databases[pos.1]? = some d ∧ d.tables[pos.2]? = some t :=
  Option.bind_eq_some_iff

theorem mem_identities_iff_tableEntry {b : Builder} {id : TableName} :
    id ∈ b.identities ↔ ∃ pos t, b.tableEntry pos = some t ∧ t.identity = id := by
  rw [mem_identities]
  constructor
  · rintro ⟨d, hd, t, ht, rfl⟩
    obtain ⟨i, hi⟩ := List.mem_iff_getElem?.mp hd
    obtain ⟨j, hj⟩ := List.mem_iff_getElem?.mp ht
    exact ⟨(i, j), t, tableEntry_eq_some.mpr ⟨d, hi, hj⟩, rfl⟩
  · rintro ⟨pos, t, ht, rfl⟩
    obtain ⟨d, hd, htd⟩ := tableEntry_eq_some.mp ht
    exact ⟨d, List.mem_of_getElem? hd, t, List.mem_of_getElem? htd, rfl⟩

theorem coherent_empty : Coherent {} where
  db_index := by simp [names]
  table_index := by simp [tableEntry]
  table_db := by simp [tableEntry]

theorem databaseHandle_tableIndex (b : Builder) (name : String) (decl : Option SourceFile) :
    (b.databaseHandle name decl).1.tableIndex = b.tableIndex := by
  unfold databaseHandle
  split <;> rfl

@[simp] theorem names_appendTable (b : Builder) (d : Nat) (id : TableName) :
    (b.appendTable d id).1.names = b.names := by
  apply List.ext_getElem?
  intro k
  simp only [Builder.appendTable, names_eq, List.getElem?_map, List.getElem?_modify]
  cases b.databases[k]? <;> simp only [Option.map_none, Option.map_some, Option.map_eq_map]
  split <;> rfl

theorem tableEntry_databaseHandle (b : Builder) (name : String) (decl : Option SourceFile)
    (pos : Nat × Nat) : (b.databaseHandle name decl).1.tableEntry pos = b.tableEntry pos := by
  unfold databaseHandle
  split
  · rfl
  · simp only [tableEntry, List.getElem?_append]
    split
    · rfl
    · rename_i hlt
      have hnone : b.databases[pos.1]? = none := List.getElem?_eq_none (by omega)
      cases hk : pos.1 - b.databases.length <;> simp [hnone]

/-- Changing the table at a position changes what that position holds and nothing else. -/
theorem tableEntry_modifyTable (b : Builder) (pos : Nat × Nat) (f : TableMeta → TableMeta)
    (q : Nat × Nat) :
    (b.modifyTable pos f).tableEntry q =
      if q = pos then (b.tableEntry pos).map f else b.tableEntry q := by
  obtain ⟨i, j⟩ := q
  simp only [modifyTable, tableEntry, List.getElem?_modify]
  by_cases hi : pos.1 = i
  · subst hi
    cases b.databases[pos.1]? with
    | none => simp
    | some d => simp only [Option.bind_some]; grind
  · have hq : (i, j) ≠ pos := fun he => hi (by rw [← he])
    cases b.databases[i]? <;> simp [hi, hq]

@[simp] theorem names_modifyTable (b : Builder) (pos : Nat × Nat) (f : TableMeta → TableMeta) :
    (b.modifyTable pos f).names = b.names := by
  apply List.ext_getElem?
  intro k
  simp only [modifyTable, names_eq, List.getElem?_map, List.getElem?_modify]
  cases b.databases[k]? <;> simp only [Option.map_none, Option.map_some, Option.map_eq_map]
  split <;> rfl

@[simp] theorem declarations_appendTable (b : Builder) (d : Nat) (id : TableName) :
    (b.appendTable d id).1.declarations = b.declarations := by
  apply List.ext_getElem?
  intro k
  simp only [Builder.appendTable, declarations, List.getElem?_map, List.getElem?_modify]
  cases b.databases[k]? <;> simp only [Option.map_none, Option.map_some, Option.map_eq_map]
  split <;> rfl

@[simp] theorem declarations_modifyTable (b : Builder) (pos : Nat × Nat)
    (f : TableMeta → TableMeta) : (b.modifyTable pos f).declarations = b.declarations := by
  apply List.ext_getElem?
  intro k
  simp only [modifyTable, declarations, List.getElem?_map, List.getElem?_modify]
  cases b.databases[k]? <;> simp only [Option.map_none, Option.map_some, Option.map_eq_map]
  split <;> rfl

/-- Changing a table without changing its identity keeps the identities. -/
theorem mem_identities_modifyTable {b : Builder} {pos : Nat × Nat} {f : TableMeta → TableMeta}
    (hf : ∀ t, (f t).identity = t.identity) {x : TableName} :
    x ∈ (b.modifyTable pos f).identities ↔ x ∈ b.identities := by
  simp only [mem_identities_iff_tableEntry, tableEntry_modifyTable]
  constructor
  · rintro ⟨q, t, ht, rfl⟩
    split at ht
    · rename_i hq
      obtain ⟨t₀, ht₀, rfl⟩ := Option.map_eq_some_iff.mp ht
      exact ⟨pos, t₀, ht₀, (hf t₀).symm⟩
    · exact ⟨q, t, ht, rfl⟩
  · rintro ⟨q, t, ht, rfl⟩
    by_cases hq : q = pos
    · subst hq
      exact ⟨q, f t, by simp [ht], hf t⟩
    · exact ⟨q, t, by simp [hq, ht], rfl⟩

section appendTable

variable {b : Builder} (id : TableName) {d : Nat} {db : DatabaseMeta}
  (hd : b.databases[d]? = some db)
include hd

theorem appendTable_position : (b.appendTable d id).2 = (d, db.tables.length) := by
  simp [Builder.appendTable, hd]

theorem tableIndex_appendTable :
    (b.appendTable d id).1.tableIndex = (id, (d, db.tables.length)) :: b.tableIndex := by
  simp [Builder.appendTable, hd]

/-- After appending, the new position holds the new table and every other position holds
what it held. -/
theorem tableEntry_appendTable (pos : Nat × Nat) :
    (b.appendTable d id).1.tableEntry pos =
      if pos = (d, db.tables.length) then some { db := id.schema, name := id.name }
      else b.tableEntry pos := by
  obtain ⟨i, j⟩ := pos
  simp only [Builder.appendTable, tableEntry, List.getElem?_modify, Prod.mk.injEq]
  by_cases hi : d = i
  · subst hi
    simp only [hd, Option.map_eq_map, Option.map_some, if_true, Option.bind_some, true_and]
    grind
  · have hi' : i ≠ d := Ne.symm hi
    simp [hi, hi']

end appendTable

namespace Coherent

variable {b : Builder} (h : b.Coherent)
include h

theorem dbIndex_lookup_eq_none_iff {name : String} :
    b.dbIndex.lookup name = none ↔ name ∉ b.names := by
  rw [List.mem_iff_getElem?, ← Option.not_isSome_iff_eq_none, Option.isSome_iff_exists]
  simp only [h.db_index, not_exists]

theorem names_nodup : b.names.Nodup := by
  rw [List.nodup_iff_getElem?_ne_getElem?]
  intro i j hij hj heq
  have hname := List.getElem?_eq_getElem (Nat.lt_trans hij hj)
  have hi := (h.db_index _ i).mpr hname
  have hj := (h.db_index _ j).mpr (heq ▸ hname)
  rw [hi] at hj
  exact Nat.ne_of_lt hij (Option.some.inj hj)

theorem databaseHandle_of_mem {name : String} (hn : name ∈ b.names) (decl : Option SourceFile) :
    ∃ i, b.databaseHandle name decl = (b, i, true) ∧ b.names[i]? = some name := by
  obtain ⟨i, hi⟩ := List.mem_iff_getElem?.mp hn
  refine ⟨i, ?_, hi⟩
  simp only [databaseHandle, (h.db_index name i).mpr hi]

theorem databaseHandle_of_not_mem {name : String} (hn : name ∉ b.names)
    (decl : Option SourceFile) :
    b.databaseHandle name decl =
      ({ b with
          databases := b.databases ++ [{ name, schemaFile := decl }]
          dbIndex := (name, b.databases.length) :: b.dbIndex },
        b.databases.length, false) := by
  simp only [databaseHandle, (h.dbIndex_lookup_eq_none_iff).mpr hn]

/-- Naming a database keeps the indices coherent. -/
theorem databaseHandle (name : String) (decl : Option SourceFile) :
    (b.databaseHandle name decl).1.Coherent := by
  by_cases hn : name ∈ b.names
  · obtain ⟨i, he, -⟩ := h.databaseHandle_of_mem hn decl
    rw [he]
    exact h
  rw [h.databaseHandle_of_not_mem hn decl]
  have hfresh : ∀ i, (b.databases.map (·.name))[i]? ≠ some name :=
    fun i hi => hn (List.mem_iff_getElem?.mpr ⟨i, hi⟩)
  constructor
  · intro m i
    simp only [names_eq, List.map_append, List.map_cons, List.map_nil, List.lookup_cons]
    by_cases hm : m = name
    · subst hm
      simp only [beq_self_eq_true, Option.some.injEq]
      grind
    · have hbeq : (m == name) = false := by simpa using hm
      simp only [hbeq, h.db_index m i, names_eq]
      grind
  · intro id pos
    rw [h.table_index id pos]
    simp only [names_eq, tableEntry, List.map_append]
    grind
  · intro pos t ht
    have hold := h.table_db pos t
    simp only [names_eq, tableEntry, List.map_append] at ht hold ⊢
    grind

/-- Under coherence, the table index holds an identity at a position exactly when the table
there carries that identity. -/
theorem tableIndex_lookup_eq_some_iff {id : TableName} {pos : Nat × Nat} :
    b.tableIndex.lookup id = some pos ↔ ∃ t, b.tableEntry pos = some t ∧ t.identity = id := by
  rw [h.table_index, Option.map_eq_some_iff]
  constructor
  · rintro ⟨-, ht⟩
    exact ht
  · rintro ⟨t, ht, rfl⟩
    exact ⟨h.table_db _ _ ht, t, ht, rfl⟩

theorem tableIndex_lookup_eq_none_iff {id : TableName} :
    b.tableIndex.lookup id = none ↔ id ∉ b.identities := by
  rw [mem_identities_iff_tableEntry, ← Option.not_isSome_iff_eq_none, Option.isSome_iff_exists]
  simp only [h.tableIndex_lookup_eq_some_iff]

theorem tables_nodup {d : DatabaseMeta} (hd : d ∈ b.databases) : (d.tables.map (·.name)).Nodup := by
  obtain ⟨k, hk⟩ := List.mem_iff_getElem?.mp hd
  rw [List.nodup_iff_getElem?_ne_getElem?]
  intro i j hij hj heq
  rw [List.length_map] at hj
  have hti := List.getElem?_eq_getElem (Nat.lt_trans hij hj)
  have htj := List.getElem?_eq_getElem hj
  have hentry : ∀ m (hm : m < d.tables.length), b.tableEntry (k, m) = some d.tables[m] :=
    fun m hm => tableEntry_eq_some.mpr ⟨d, hk, List.getElem?_eq_getElem hm⟩
  have hname : d.tables[i].name = d.tables[j].name := by
    simpa [hti, htj] using heq
  have hdb : ∀ m (hm : m < d.tables.length), d.tables[m].db = d.name := fun m hm => by
    simpa [names, hk, eq_comm] using h.table_db _ _ (hentry m hm)
  have hdb : d.tables[i].db = d.tables[j].db := by rw [hdb i, hdb j]
  have hsame : d.tables[i].identity = d.tables[j].identity := by
    simp only [TableMeta.identity, hname, hdb]
  have hi := h.tableIndex_lookup_eq_some_iff.mpr ⟨_, hentry i (Nat.lt_trans hij hj), rfl⟩
  have hj' := h.tableIndex_lookup_eq_some_iff.mpr ⟨_, hentry j hj, rfl⟩
  rw [hsame, hj'] at hi
  exact Nat.ne_of_lt hij (congrArg Prod.snd (Option.some.inj hi)).symm

theorem databaseHandle_existed (name : String) (decl : Option SourceFile) :
    (b.databaseHandle name decl).2.2 = decide (name ∈ b.names) := by
  by_cases hn : name ∈ b.names
  · obtain ⟨i, he, -⟩ := h.databaseHandle_of_mem hn decl
    simp [he, hn]
  · simp [h.databaseHandle_of_not_mem hn decl, hn]

theorem databaseHandle_databases (name : String) (decl : Option SourceFile) :
    (b.databaseHandle name decl).1.databases =
      if name ∈ b.names then b.databases else b.databases ++ [{ name, schemaFile := decl }] := by
  by_cases hn : name ∈ b.names
  · obtain ⟨i, he, -⟩ := h.databaseHandle_of_mem hn decl
    simp [he, hn]
  · simp [h.databaseHandle_of_not_mem hn decl, hn]

theorem names_databaseHandle (name : String) (decl : Option SourceFile) :
    (b.databaseHandle name decl).1.names =
      if name ∈ b.names then b.names else b.names ++ [name] := by
  rw [names_eq, h.databaseHandle_databases]
  split <;> simp [names]

/-- The position that naming a database hands out holds the database of that name. -/
theorem databaseHandle_position (name : String) (decl : Option SourceFile) :
    (b.databaseHandle name decl).1.names[(b.databaseHandle name decl).2.1]? = some name := by
  by_cases hn : name ∈ b.names
  · obtain ⟨i, he, hi⟩ := h.databaseHandle_of_mem hn decl
    simpa [he] using hi
  · simp [h.databaseHandle_of_not_mem hn decl, names]

theorem identities_databaseHandle (name : String) (decl : Option SourceFile) :
    (b.databaseHandle name decl).1.identities = b.identities := by
  simp [identities, h.databaseHandle_databases name decl]
  split <;> simp

theorem tableHandle_of_mem {id : TableName} (hid : id ∈ b.identities) :
    ∃ pos, b.tableHandle id = (b, pos, true, true) ∧
      ∃ t, b.tableEntry pos = some t ∧ t.identity = id := by
  obtain ⟨pos, t, ht, rfl⟩ := mem_identities_iff_tableEntry.mp hid
  have hs : t.identity.schema ∈ b.names := List.mem_of_getElem? (h.table_db _ _ ht)
  obtain ⟨i, hdh, -⟩ := h.databaseHandle_of_mem hs none
  refine ⟨pos, ?_, t, ht, rfl⟩
  simp only [tableHandle, hdh, h.tableIndex_lookup_eq_some_iff.mpr ⟨t, ht, rfl⟩]

theorem tableHandle_of_not_mem {id : TableName} (hid : id ∉ b.identities) :
    b.tableHandle id =
      let r := b.databaseHandle id.schema none
      ((r.1.appendTable r.2.1 id).1, (r.1.appendTable r.2.1 id).2, r.2.2, false) := by
  have hl : (b.databaseHandle id.schema none).1.tableIndex.lookup id = none := by
    rw [databaseHandle_tableIndex]
    exact h.tableIndex_lookup_eq_none_iff.mpr hid
  rcases hdh : b.databaseHandle id.schema none with ⟨b₁, d, e⟩
  rw [hdh] at hl
  simp only [tableHandle, hdh, hl]

/-- Appending a table of a new identity to the database of its schema keeps the indices
coherent. -/
theorem appendTable {id : TableName} (hid : id ∉ b.identities) {d : Nat} {db : DatabaseMeta}
    (hd : b.databases[d]? = some db) (hname : db.name = id.schema) :
    (b.appendTable d id).1.Coherent := by
  have hnames := names_appendTable b d id
  have hentry := tableEntry_appendTable id hd
  have hfree : b.tableEntry (d, db.tables.length) = none := by
    simp [tableEntry, hd]
  have hindex := tableIndex_appendTable id hd
  have hdname : b.names[d]? = some id.schema := by simp [names, hd, hname]
  constructor
  · intro name i
    rw [hnames]
    exact h.db_index name i
  · intro x pos
    rw [hindex, hnames, hentry, List.lookup_cons]
    by_cases hx : x = id
    · subst hx
      by_cases hpos : pos = (d, db.tables.length)
      · subst hpos
        simp only [beq_self_eq_true, if_true, Option.map_some]
        exact ⟨fun _ => ⟨hdname, rfl⟩, fun _ => trivial⟩
      · have hout : (b.tableEntry pos).map (·.identity) ≠ some x := fun hin => by
          obtain ⟨t, ht, htx⟩ := Option.map_eq_some_iff.mp hin
          exact hid (mem_identities_iff_tableEntry.mpr ⟨pos, t, ht, htx⟩)
        simp only [beq_self_eq_true, hpos, if_false, Option.some.injEq]
        exact ⟨fun he => absurd he.symm hpos, fun ⟨_, he⟩ => absurd he hout⟩
    · have hbeq : (x == id) = false := by simpa using hx
      simp only [hbeq, h.table_index x pos]
      by_cases hpos : pos = (d, db.tables.length)
      · subst hpos
        have hne : TableMeta.identity { db := id.schema, name := id.name } ≠ x :=
          fun he => hx he.symm
        simp [hfree, hne]
      · simp only [hpos, if_false]
  · intro pos t ht
    rw [hnames]
    rw [hentry] at ht
    split at ht
    · rename_i hpos
      subst hpos
      cases ht
      exact hdname
    · exact h.table_db pos t ht

theorem databaseHandle_entry (name : String) (decl : Option SourceFile) :
    ∃ db, (b.databaseHandle name decl).1.databases[(b.databaseHandle name decl).2.1]? = some db ∧
      db.name = name := by
  have hpos := h.databaseHandle_position name decl
  simpa [names, Option.map_eq_some_iff] using hpos

/-- Naming a table keeps the indices coherent. -/
theorem tableHandle (id : TableName) : (b.tableHandle id).1.Coherent := by
  by_cases hid : id ∈ b.identities
  · obtain ⟨pos, he, -⟩ := h.tableHandle_of_mem hid
    rw [he]
    exact h
  · rw [h.tableHandle_of_not_mem hid]
    obtain ⟨db, hd, hname⟩ := h.databaseHandle_entry id.schema none
    exact (h.databaseHandle id.schema none).appendTable
      (by rwa [h.identities_databaseHandle]) hd hname

theorem tableHandle_existed (id : TableName) :
    (b.tableHandle id).2.2 = (decide (id.schema ∈ b.names), decide (id ∈ b.identities)) := by
  by_cases hid : id ∈ b.identities
  · obtain ⟨pos, he, t, ht, rfl⟩ := h.tableHandle_of_mem hid
    have hs : t.db ∈ b.names := List.mem_of_getElem? (h.table_db _ _ ht)
    simp [he, hs, hid]
  · simp [h.tableHandle_of_not_mem hid, h.databaseHandle_existed, hid]

/-- Naming a table adds the new table at the position it hands out, when the table is new,
and leaves every other position as it was. -/
theorem tableEntry_tableHandle (id : TableName) (q : Nat × Nat) :
    (b.tableHandle id).1.tableEntry q =
      if q = (b.tableHandle id).2.1 ∧ id ∉ b.identities
      then some { db := id.schema, name := id.name } else b.tableEntry q := by
  by_cases hid : id ∈ b.identities
  · obtain ⟨pos, he, -⟩ := h.tableHandle_of_mem hid
    simp [he, hid]
  · obtain ⟨db, hd, -⟩ := h.databaseHandle_entry id.schema none
    simp only [h.tableHandle_of_not_mem hid, tableEntry_appendTable id hd,
      appendTable_position id hd, tableEntry_databaseHandle, hid, not_false_eq_true, and_true]

/-- The position that naming a table hands out holds a table of that identity. -/
theorem tableHandle_position (id : TableName) :
    ∃ t, (b.tableHandle id).1.tableEntry (b.tableHandle id).2.1 = some t ∧ t.identity = id ∧
      (id ∈ b.identities → b.tableEntry (b.tableHandle id).2.1 = some t) := by
  by_cases hid : id ∈ b.identities
  · obtain ⟨pos, he, t, ht, hti⟩ := h.tableHandle_of_mem hid
    exact ⟨t, by simp [he, ht], hti, fun _ => by simp [he, ht]⟩
  · refine ⟨{ db := id.schema, name := id.name }, ?_, rfl, fun hin => absurd hin hid⟩
    simp [h.tableEntry_tableHandle, hid]

theorem names_tableHandle (id : TableName) :
    (b.tableHandle id).1.names = if id.schema ∈ b.names then b.names else b.names ++ [id.schema] := by
  by_cases hid : id ∈ b.identities
  · obtain ⟨pos, he, t, ht, rfl⟩ := h.tableHandle_of_mem hid
    have hs : t.db ∈ b.names := List.mem_of_getElem? (h.table_db _ _ ht)
    simp [he, hs]
  · rw [h.tableHandle_of_not_mem hid]
    simp only [names_appendTable, h.names_databaseHandle]

/-- Changing a table without changing its identity keeps the indices coherent. -/
theorem modifyTable {pos : Nat × Nat} (f : TableMeta → TableMeta)
    (hf : ∀ t, (f t).identity = t.identity) : (b.modifyTable pos f).Coherent := by
  constructor
  · intro name i
    rw [names_modifyTable]
    exact h.db_index name i
  · intro id q
    rw [names_modifyTable, tableEntry_modifyTable, show (b.modifyTable pos f).tableIndex =
      b.tableIndex from rfl, h.table_index]
    split
    · rename_i hq
      subst hq
      cases b.tableEntry q <;> simp [hf]
    · rfl
  · intro q t ht
    rw [names_modifyTable]
    rw [tableEntry_modifyTable] at ht
    split at ht
    · rename_i hq
      subst hq
      obtain ⟨t₀, ht₀, rfl⟩ := Option.map_eq_some_iff.mp ht
      have := h.table_db _ _ ht₀
      have hdb : (f t₀).db = t₀.db := by simpa using congrArg TableName.schema (hf t₀)
      rw [hdb]
      exact this
    · exact h.table_db q t ht

theorem declarations_databaseHandle (name : String) (decl : Option SourceFile) :
    (b.databaseHandle name decl).1.declarations =
      if name ∈ b.names then b.declarations else b.declarations ++ [(name, decl)] := by
  rw [declarations, h.databaseHandle_databases]
  split <;> simp [declarations]

theorem declarations_tableHandle (id : TableName) :
    (b.tableHandle id).1.declarations =
      if id.schema ∈ b.names then b.declarations else b.declarations ++ [(id.schema, none)] := by
  by_cases hid : id ∈ b.identities
  · obtain ⟨pos, he, t, ht, rfl⟩ := h.tableHandle_of_mem hid
    have hs : t.db ∈ b.names := List.mem_of_getElem? (h.table_db _ _ ht)
    simp [he, hs]
  · rw [h.tableHandle_of_not_mem hid]
    simp only [declarations_appendTable, h.declarations_databaseHandle]

/-- Naming a database that exists changes nothing, reports that it existed and hands out
the database as it was. -/
theorem insertDatabase_of_mem {name : String} (hn : name ∈ b.names) (decl : Option SourceFile) :
    ∃ d ∈ b.databases, d.name = name ∧ b.insertDatabase name decl = (b, d, true) := by
  obtain ⟨i, he, hi⟩ := h.databaseHandle_of_mem hn decl
  obtain ⟨d, hd, rfl⟩ := Option.map_eq_some_iff.mp (by simpa [names] using hi)
  exact ⟨d, List.mem_of_getElem? hd, rfl, by simp [insertDatabase, he, hd]⟩

/-- Naming a table that exists changes nothing, reports that its database and it existed,
and hands out the table as it was. -/
theorem insertTable_of_mem {id : TableName} (hid : id ∈ b.identities) :
    ∃ t, t.identity = id ∧ b.insertTable id = (b, t, true, true) := by
  obtain ⟨pos, he, t, ht, hti⟩ := h.tableHandle_of_mem hid
  exact ⟨t, hti, by simp [insertTable, he, tableAt_eq, ht]⟩

/-- A new table is handed a position that held nothing. -/
theorem tableHandle_fresh {id : TableName} (hid : id ∉ b.identities) :
    b.tableEntry (b.tableHandle id).2.1 = none := by
  obtain ⟨db, hd, -⟩ := h.databaseHandle_entry id.schema none
  rw [h.tableHandle_of_not_mem hid]
  simp only [appendTable_position id hd]
  rw [← tableEntry_databaseHandle b id.schema none]
  simp [tableEntry, hd]

theorem mem_identities_tableHandle (id : TableName) {x : TableName} :
    x ∈ (b.tableHandle id).1.identities ↔ x ∈ b.identities ∨ x = id := by
  simp only [mem_identities_iff_tableEntry, h.tableEntry_tableHandle]
  constructor
  · rintro ⟨q, t, ht, rfl⟩
    split at ht
    · cases ht
      exact .inr rfl
    · exact .inl ⟨q, t, ht, rfl⟩
  · rintro (⟨q, t, ht, rfl⟩ | rfl)
    · refine ⟨q, t, ?_, rfl⟩
      rw [if_neg]
      · exact ht
      · rintro ⟨rfl, hnot⟩
        rw [h.tableHandle_fresh hnot] at ht
        cases ht
    · by_cases hid : x ∈ b.identities
      · obtain ⟨q, t, ht, rfl⟩ := mem_identities_iff_tableEntry.mp hid
        refine ⟨q, t, ?_, rfl⟩
        rw [if_neg (fun hq => hq.2 hid)]
        exact ht
      · exact ⟨(b.tableHandle x).2.1, { db := x.schema, name := x.name }, by simp [hid], rfl⟩

/-- Two positions that hold tables of one identity are the same position. -/
theorem position_unique {pos pos' : Nat × Nat} {t t' : TableMeta}
    (ht : b.tableEntry pos = some t) (ht' : b.tableEntry pos' = some t')
    (hid : t.identity = t'.identity) : pos = pos' := by
  have h₁ := h.tableIndex_lookup_eq_some_iff.mpr ⟨t, ht, rfl⟩
  have h₂ := h.tableIndex_lookup_eq_some_iff.mpr ⟨t', ht', hid.symm⟩
  rw [h₁] at h₂
  exact Option.some.inj h₂

theorem db_of_mem {d : DatabaseMeta} (hd : d ∈ b.databases) {t : TableMeta} (ht : t ∈ d.tables) :
    t.db = d.name := by
  obtain ⟨i, hi⟩ := List.mem_iff_getElem?.mp hd
  obtain ⟨j, hj⟩ := List.mem_iff_getElem?.mp ht
  simpa [names, hi, eq_comm] using h.table_db (i, j) t (tableEntry_eq_some.mpr ⟨d, hi, hj⟩)

/-- Table identities are distinct: databases have distinct names, and within a database
tables have distinct names and carry the database's name. -/
theorem identities_nodup : b.identities.Nodup := by
  unfold identities
  rw [List.nodup_flatMap]
  constructor
  · intro d hd
    apply List.Nodup.of_map (·.name)
    rw [List.map_map]
    exact h.tables_nodup hd
  · have hnames : b.databases.Pairwise (fun d₁ d₂ => d₁.name ≠ d₂.name) :=
      List.pairwise_map.mp h.names_nodup
    refine hnames.imp_of_mem fun {d₁ d₂} hd₁ hd₂ hne => ?_
    show List.Disjoint _ _
    rw [List.disjoint_left]
    intro x hx₁ hx₂
    obtain ⟨t₁, ht₁, rfl⟩ := List.mem_map.mp hx₁
    obtain ⟨t₂, ht₂, he⟩ := List.mem_map.mp hx₂
    have hdb : t₂.db = t₁.db := congrArg TableName.schema he
    exact hne (by rw [← h.db_of_mem hd₁ ht₁, ← h.db_of_mem hd₂ ht₂, hdb])

end Coherent

/-! ## Sequences of calls -/

/-- A call of the builder's interface: naming a database with a declaration, or naming a
table. -/
inductive Call
  | database (name : String) (decl : Option SourceFile)
  | table (id : TableName)

namespace Call

/-- The builder after the call. -/
def apply : Call → Builder → Builder
  | .database name decl, b => (b.insertDatabase name decl).1
  | .table id, b => (b.insertTable id).1

/-- The database that the call names. -/
def schema : Call → String
  | .database name _ => name
  | .table id => id.schema

/-- The declaration that the call gives its database when it creates it. -/
def declaration : Call → Option SourceFile
  | .database _ decl => decl
  | .table _ => none

end Call

/-- The builder after a sequence of calls, starting from an empty one. -/
def run (calls : List Call) : Builder := calls.foldl (fun b c => c.apply b) {}

/-- The declaration given by the first call that names a database. -/
def firstDeclaration (calls : List Call) (name : String) : Option SourceFile :=
  (calls.find? (·.schema == name)).bind (·.declaration)

@[simp] theorem run_nil : run [] = {} := rfl

theorem run_append_singleton (calls : List Call) (c : Call) :
    run (calls ++ [c]) = c.apply (run calls) := by
  simp [run, List.foldl_append]

namespace Coherent

variable {b : Builder} (h : b.Coherent)
include h

theorem apply (c : Call) : (c.apply b).Coherent := by
  cases c with
  | database name decl => exact h.databaseHandle name decl
  | table id => exact h.tableHandle id

theorem declarations_apply (c : Call) :
    (c.apply b).declarations =
      if c.schema ∈ b.names then b.declarations
      else b.declarations ++ [(c.schema, c.declaration)] := by
  cases c with
  | database name decl => exact h.declarations_databaseHandle name decl
  | table id => exact h.declarations_tableHandle id

end Coherent

theorem coherent_run (calls : List Call) : (run calls).Coherent := by
  induction calls using List.reverseRecOn with
  | nil => exact coherent_empty
  | append_singleton calls c ih => rw [run_append_singleton]; exact ih.apply c

theorem names_eq_declarations (b : Builder) : b.names = b.declarations.map (·.1) := by
  simp [names, declarations]

/-- A database exists after a sequence of calls exactly when some call named it. -/
theorem mem_names_run {calls : List Call} :
    ∀ {name : String}, name ∈ (run calls).names ↔ ∃ c ∈ calls, c.schema = name := by
  induction calls using List.reverseRecOn with
  | nil => simp [names]
  | append_singleton calls c ih =>
    intro name
    rw [run_append_singleton, names_eq_declarations, (coherent_run calls).declarations_apply]
    split
    · rename_i hmem
      rw [← names_eq_declarations, ih]
      obtain ⟨c', hc', hschema⟩ := ih.mp hmem
      simp only [List.mem_append, List.mem_singleton]
      grind
    · simp only [List.map_append, List.mem_append, ← names_eq_declarations, ih,
        List.mem_singleton]
      grind

/-- After a sequence of calls, each database keeps the declaration of the first call that
named it. -/
theorem declarations_run {calls : List Call} :
    ∀ p ∈ (run calls).declarations, p.2 = firstDeclaration calls p.1 := by
  induction calls using List.reverseRecOn with
  | nil => simp [declarations]
  | append_singleton calls c ih =>
    have hfirst : ∀ name, (∃ c' ∈ calls, c'.schema = name) →
        firstDeclaration (calls ++ [c]) name = firstDeclaration calls name := by
      rintro name ⟨c', hc', hname⟩
      have hsome : (calls.find? (·.schema == name)).isSome := by
        rw [List.find?_isSome]
        exact ⟨c', hc', by simp [hname]⟩
      obtain ⟨c₀, hc₀⟩ := Option.isSome_iff_exists.mp hsome
      simp [firstDeclaration, List.find?_append, hc₀]
    rw [run_append_singleton, (coherent_run calls).declarations_apply]
    split
    · rename_i hmem
      intro p hp
      rw [ih p hp, hfirst p.1 (mem_names_run.mp
        (by rw [names_eq_declarations]; exact List.mem_map_of_mem hp))]
    · rename_i hnot
      intro p hp
      rcases List.mem_append.mp hp with hp | hp
      · rw [ih p hp, hfirst p.1 (mem_names_run.mp
          (by rw [names_eq_declarations]; exact List.mem_map_of_mem hp))]
      · obtain rfl := List.mem_singleton.mp hp
        have hnone : calls.find? (·.schema == c.schema) = none := by
          rw [List.find?_eq_none]
          intro c' hc' heq
          exact hnot (mem_names_run.mpr ⟨c', hc', by simpa using heq⟩)
        simp [firstDeclaration, List.find?_append, hnone]

/-- The representation invariant of the builder. After any sequence of calls from an empty
builder the indices describe the lists exactly, so database names are distinct, table names
are distinct within each database, and every table names the database it sits in. Each
database keeps the declaration of the first call that named it, and repeating a call for a
database or a table that exists changes nothing, reports that it existed and hands out the
entry as it was. -/
theorem run_representation_invariant (calls : List Call) :
    let b := run calls
    b.Coherent ∧ b.names.Nodup ∧
      (∀ d ∈ b.databases, (d.tables.map (·.name)).Nodup ∧ ∀ t ∈ d.tables, t.db = d.name) ∧
      (∀ d ∈ b.databases, d.schemaFile = firstDeclaration calls d.name) ∧
      (∀ name decl, name ∈ b.names →
        ∃ d ∈ b.databases, d.name = name ∧ b.insertDatabase name decl = (b, d, true)) ∧
      (∀ id ∈ b.identities, ∃ t, t.identity = id ∧ b.insertTable id = (b, t, true, true)) := by
  intro b
  have h : b.Coherent := coherent_run calls
  refine ⟨h, h.names_nodup, fun d hd => ⟨h.tables_nodup hd, fun t ht => h.db_of_mem hd ht⟩,
    fun d hd => ?_, fun name decl hn => h.insertDatabase_of_mem hn decl,
    fun id hid => h.insertTable_of_mem hid⟩
  exact declarations_run (d.name, d.schemaFile) (List.mem_map_of_mem hd)

end Builder

end DumpTopology
