import DumpTopology.Proofs.Builder.Contents

/-!
# Exact size sums

Sizes are 64-bit counts, and every sum of them is exact within `maxSize` and the fault
`sizeOverflow` past it. Building adds each data file's size to the running total of its
table, checking each addition; the running total is the sum of the sizes of the files of its
identity so far (`Filed`). So no addition overflows when no identity's files add up past the
maximum, and each table's total is then the exact sum of its identity's files
(`build_sizes_exact`).

A database's size and a topology's size sum their tables' totals. Checking every addition
gives the same outcome as checking the whole sum once, since the partial sums only grow: the
sum is exact when it is within the maximum, and the overflow fault otherwise.
-/
namespace DumpTopology

/-- A sum of sizes is refused exactly past the maximum. -/
theorem checkedSize_eq (n : Nat) :
    checkedSize n = if n ≤ maxSize then .ok n else .error .sizeOverflow := rfl

/-! ## Building -/

/-- In schema mode the size overflow is only reported for a data file that brings its
identity's sizes past the maximum. -/
theorem not_sizesFit_of_schemaFault {tol : Bool} {B : Buckets}
    (h : SchemaFault tol B .sizeOverflow) : ¬ SizesFit B.tableData := by
  -- every other fault of the first bad record is a missing or repeated declaration
  rcases h with _ | ⟨_, hd⟩ | ⟨_, _, ht⟩ | ⟨_, _, _, hd⟩
  · cases hd
  · cases ht
  · rcases hd with _ | _ | @⟨pre, r, post, hsplit, -, -, -, hover⟩
    intro hfit
    have hle := hfit r.name
    rw [hsplit, show pre ++ r :: post = (pre ++ [r]) ++ post by simp, dataSize_append] at hle
    omega

/-- When no identity's data files add up past the maximum, building never overflows: it
fails, if at all, with another fault. -/
theorem build_ne_sizeOverflow {B : Buckets} (policy : BuildPolicy) (hfit : SizesFit B.tableData) :
    Builder.build {} B policy ≠ .error .sizeOverflow := by
  obtain ⟨sm, tol⟩ := policy
  intro h
  cases sm with
  | false => exact ((Builder.build_free_outcome tol B).error _).mp h |>.2 hfit
  | true => exact not_sizesFit_of_schemaFault (((Builder.build_schema_outcome tol B).error _).mp h) hfit

/-- Every table that building gives holds the sum of the sizes of its identity's files. -/
theorem build_totalSize_eq {B : Buckets} {policy : BuildPolicy} {dbs : List DatabaseMeta}
    (h : Builder.build {} B policy = .ok dbs) {d : DatabaseMeta} (hd : d ∈ dbs)
    {t : TableMeta} (ht : t ∈ d.tables) : t.totalSize = dataSize B.tableData t.identity := by
  obtain ⟨b, -, hf, rfl⟩ := Builder.build_holdsData h
  exact (hf.of_mem hd ht).2

/-! ## Databases and topologies -/

/-- The tables' totals of some databases, added database by database. -/
theorem foldr_tables_eq (dbs : List DatabaseMeta) :
    ((dbs.flatMap (·.tables)).map (·.totalSize)).foldr (· + ·) 0 =
      (dbs.map (·.sizeSum)).foldr (· + ·) 0 := by
  induction dbs with
  | nil => rfl
  | cons d dbs ih =>
    rw [List.flatMap_cons, List.map_append, List.map_cons]
    change (d.tables.map (·.totalSize) ++ (dbs.flatMap (·.tables)).map (·.totalSize)).sum =
      d.sizeSum + (dbs.map (·.sizeSum)).sum
    rw [List.sum_append]
    exact congrArg (d.sizeSum + ·) ih

/-- Sizing some databases fails, with the overflow, exactly when one of them is past the
maximum, and otherwise gives each one's exact sum. -/
theorem mapM_totalSize (dbs : List DatabaseMeta) :
    dbs.mapM (·.totalSize) =
      if ∀ d ∈ dbs, d.sizeSum ≤ maxSize then .ok (dbs.map (·.sizeSum)) else .error .sizeOverflow := by
  induction dbs with
  | nil => rfl
  | cons d dbs ih =>
    rw [List.mapM_cons, ih, DatabaseMeta.totalSize, checkedSize_eq]
    by_cases hd : d.sizeSum ≤ maxSize
    · by_cases hrest : ∀ x ∈ dbs, x.sizeSum ≤ maxSize
      · have hall : ∀ x ∈ d :: dbs, x.sizeSum ≤ maxSize := List.forall_mem_cons.mpr ⟨hd, hrest⟩
        rw [if_pos hd, if_pos hrest, if_pos hall]
        rfl
      · have hall : ¬ ∀ x ∈ d :: dbs, x.sizeSum ≤ maxSize := fun h =>
          hrest (List.forall_mem_cons.mp h).2
        rw [if_pos hd, if_neg hrest, if_neg hall]
        rfl
    · have hall : ¬ ∀ x ∈ d :: dbs, x.sizeSum ≤ maxSize := fun h => hd (List.forall_mem_cons.mp h).1
      rw [if_neg hd, if_neg hall]
      rfl

theorem le_foldr_of_mem {xs : List Nat} {x : Nat} (h : x ∈ xs) : x ≤ xs.foldr (· + ·) 0 := by
  induction xs with
  | nil => cases h
  | cons y ys ih =>
    rcases List.mem_cons.mp h with rfl | h
    · exact Nat.le_add_right _ _
    · exact Nat.le_add_left_of_le (ih h)

/-- A topology's size is the exact sum of its tables' totals when that is within the
maximum, and the overflow fault otherwise; a database too large on its own makes the whole
sum too large. -/
theorem Topology.totalSize_eq (t : Topology) :
    t.totalSize =
      if (t.tables.map (·.totalSize)).foldr (· + ·) 0 ≤ maxSize then
        .ok ((t.tables.map (·.totalSize)).foldr (· + ·) 0)
      else .error .sizeOverflow := by
  rw [Topology.totalSize, mapM_totalSize, Topology.tables, foldr_tables_eq]
  by_cases hall : ∀ d ∈ t.databases, d.sizeSum ≤ maxSize
  · rw [if_pos hall]
    rfl
  · have hover : ¬ (t.databases.map (·.sizeSum)).foldr (· + ·) 0 ≤ maxSize := by
      intro hle
      exact hall fun d hd => Nat.le_trans (le_foldr_of_mem (List.mem_map_of_mem hd)) hle
    rw [if_neg hall, if_neg hover]
    rfl

/-- Size arithmetic is exact and overflows only past the maximum. Building from buckets in
which no identity's data files add up past `maxSize` never overflows, and every table it
gives totals exactly the sizes of its identity's data files. A database's size and a
topology's size are the exact sum of their tables' totals when that sum is within the
maximum, and the overflow fault exactly when it is past it. -/
theorem size_sums_exact (B : Buckets) (policy : BuildPolicy) (hfit : SizesFit B.tableData) :
    (Builder.build {} B policy ≠ .error .sizeOverflow ∧
      ∀ dbs, Builder.build {} B policy = .ok dbs → ∀ d ∈ dbs, ∀ t ∈ d.tables,
        t.totalSize = dataSize B.tableData t.identity) ∧
    (∀ d : DatabaseMeta, d.totalSize =
      if (d.tables.map (·.totalSize)).foldr (· + ·) 0 ≤ maxSize then
        .ok ((d.tables.map (·.totalSize)).foldr (· + ·) 0)
      else .error .sizeOverflow) ∧
    (∀ t : Topology, t.totalSize =
      if (t.tables.map (·.totalSize)).foldr (· + ·) 0 ≤ maxSize then
        .ok ((t.tables.map (·.totalSize)).foldr (· + ·) 0)
      else .error .sizeOverflow) :=
  ⟨⟨build_ne_sizeOverflow policy hfit, fun _ h _ hd _ ht => build_totalSize_eq h hd ht⟩,
    fun d => checkedSize_eq d.sizeSum, Topology.totalSize_eq⟩

/-- Two data files of one table whose sizes add up to exactly `maxSize` fit: building in
schema mode does not overflow, and the table totals the exact sum. -/
theorem size_sums_exact_at_limit :
    let B : Buckets :=
      { databaseSchemas := [⟨"a", some ⟨"a-schema-create.sql", 0, .databaseSchema, .none, ""⟩⟩]
        tableSchemas := [⟨⟨"a", "t"⟩, ⟨"a.t-schema.sql", 0, .tableSchema, .none, ""⟩⟩]
        tableData := [⟨⟨"a", "t"⟩, ⟨"a.t.1.sql", 18446744073709551614, .data .sql, .none, "1"⟩⟩,
          ⟨⟨"a", "t"⟩, ⟨"a.t.2.sql", 1, .data .sql, .none, "2"⟩⟩] }
    SizesFit B.tableData ∧
      (Builder.build {} B ⟨true, false⟩ ≠ .error .sizeOverflow ∧
        ∀ dbs, Builder.build {} B ⟨true, false⟩ = .ok dbs → ∀ d ∈ dbs, ∀ t ∈ d.tables,
          t.totalSize = dataSize B.tableData t.identity) ∧
      (∀ d : DatabaseMeta, d.totalSize =
        if (d.tables.map (·.totalSize)).foldr (· + ·) 0 ≤ maxSize then
          .ok ((d.tables.map (·.totalSize)).foldr (· + ·) 0)
        else .error .sizeOverflow) ∧
      (∀ t : Topology, t.totalSize =
        if (t.tables.map (·.totalSize)).foldr (· + ·) 0 ≤ maxSize then
          .ok ((t.tables.map (·.totalSize)).foldr (· + ·) 0)
        else .error .sizeOverflow) := by
  intro B
  have hfit : SizesFit B.tableData := by
    intro id
    by_cases h : id = ⟨"a", "t"⟩
    · subst h
      decide
    · simp [B, dataSize, filesOf, sizeTotal, Ne.symm h]
  exact ⟨hfit, size_sums_exact B ⟨true, false⟩ hfit⟩

end DumpTopology
