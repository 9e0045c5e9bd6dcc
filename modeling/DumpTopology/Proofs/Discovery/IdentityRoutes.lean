import DumpTopology.Proofs.Discovery.Conservation

/-!
# Rename rules that rename nothing

A renaming that gives every table declaration and data file its own identity back moves no
record to another schema. No reference moves and no declaration is made up, every database
declaration keeps the reference of its own record, and resolution gives the buckets back as
they were (`resolveRenames_of_identity`).

Rename rules also make the build tolerate repeated declarations. Tolerance only turns a
refusal into going on: a strict build that succeeds takes the same steps when tolerant
(`build_tolerant_of_strict`). So a discovery that succeeds without rename rules gives the same
topology with rules that keep every identity it classifies, such as the rules of an empty list
(`discover_with_identity_routes`).
-/
namespace DumpTopology

namespace Resolution

/-- Moving records that the renaming keeps moves no reference and keeps the records. -/
theorem foldlM_move_of_identity {rename : String → String → Except RuleFault TableName}
    (r : Resolution) (xs acc : List ClassifiedFile)
    (hid : ∀ f ∈ xs, rename f.name.schema f.name.name = .ok f.name) :
    xs.foldlM (move rename) (r, acc) = .ok (r, acc ++ xs) := by
  induction xs generalizing acc with
  | nil =>
    rw [List.foldlM_nil, List.append_nil]
    rfl
  | cons f xs ih =>
    have hf : move rename (r, acc) f = .ok (r, acc ++ [f]) := by
      simp [move, hid f List.mem_cons_self]
    rw [List.foldlM_cons, hf, except_ok_bind, ih _ fun g hg => hid g (List.mem_cons_of_mem f hg)]
    simp

end Resolution

/-- Resolution by a renaming that gives every table declaration and data file its own
identity back returns the buckets unchanged. -/
theorem resolveRenames_of_identity {rename : String → String → Except RuleFault TableName}
    {b : Buckets}
    (hid : ∀ f ∈ b.tableSchemas ++ b.tableData, rename f.name.schema f.name.name = .ok f.name) :
    b.resolveRenames rename = .ok b := by
  obtain ⟨hsyn₀, hrefs₀⟩ := Resolution.refs_foldl_declare b.databaseSchemas
  obtain ⟨hsyn₁, hrefs₁⟩ := Resolution.refs_foldl_countTable b.tableSchemas
    (b.databaseSchemas.foldl Resolution.declare {})
  -- every declared schema keeps at least the reference of its own declaration
  have hkeep : ∀ d ∈ b.databaseSchemas, ((b.tableSchemas.foldl Resolution.countTable
      (b.databaseSchemas.foldl Resolution.declare {})).refs d.schema).count > 0 := by
    intro d hd
    have hdecl : ((b.databaseSchemas.foldl Resolution.declare {}).refs d.schema).count = 1 := by
      simpa [List.mem_map_of_mem hd] using (hrefs₀ d.schema).1
    rw [(hrefs₁ d.schema).1, hdecl]
    omega
  have hT := Resolution.foldlM_move_of_identity
    (b.tableSchemas.foldl Resolution.countTable (b.databaseSchemas.foldl Resolution.declare {}))
    b.tableSchemas [] fun f hf => hid f (List.mem_append_left _ hf)
  have hF := Resolution.foldlM_move_of_identity
    (b.tableSchemas.foldl Resolution.countTable (b.databaseSchemas.foldl Resolution.declare {}))
    b.tableData [] fun f hf => hid f (List.mem_append_right _ hf)
  unfold Buckets.resolveRenames
  dsimp only
  rw [hT]
  simp only [except_ok_bind, List.nil_append]
  rw [hF]
  simp only [except_ok_bind, List.nil_append, hsyn₁, hsyn₀, List.append_nil,
    List.filter_eq_self.mpr fun d hd => decide_eq_true (hkeep d hd)]
  rfl

namespace Builder

/-- A strict step that succeeds reaches the same builder when duplicates are tolerated. -/
theorem foldlM_tolerant {α : Type} {strict tolerant : Builder → α → Except DiscoveryFault Builder}
    (hstep : ∀ b x b', strict b x = .ok b' → tolerant b x = .ok b') :
    ∀ (xs : List α) {b b' : Builder}, xs.foldlM strict b = .ok b' → xs.foldlM tolerant b = .ok b'
  | [], _, _, h => h
  | x :: xs, b, b', h => by
    rw [List.foldlM_cons] at h ⊢
    obtain ⟨b₁, h₁, h⟩ := except_bind_eq_ok.mp h
    rw [hstep b x b₁ h₁, except_ok_bind]
    exact foldlM_tolerant hstep xs h

theorem declareDatabase_tolerant {sm : Bool} {b b' : Builder} {decl : SchemaDeclaration}
    (h : declareDatabase ⟨sm, false⟩ b decl = .ok b') : declareDatabase ⟨sm, true⟩ b decl = .ok b' := by
  unfold declareDatabase at h ⊢
  -- a strict declaration succeeds only for a new database, where tolerance plays no part
  generalize b.databaseHandle decl.schema decl.file = handle at h ⊢
  obtain ⟨b₁, i, existed⟩ := handle
  cases existed <;> simp_all

theorem declareTable_tolerant {sm : Bool} {b b' : Builder} {r : ClassifiedFile}
    (h : declareTable ⟨sm, false⟩ b r = .ok b') : declareTable ⟨sm, true⟩ b r = .ok b' := by
  unfold declareTable at h ⊢
  -- a strict declaration succeeds only for a new table, where tolerance plays no part
  generalize b.tableHandle r.name = handle at h ⊢
  obtain ⟨b₁, pos, dbExisted, tableExisted⟩ := handle
  cases dbExisted <;> cases tableExisted <;> simp_all

/-- Tolerating repeated declarations only changes what a strict build refuses: a strict build
that succeeds gives the same databases when tolerant. -/
theorem build_tolerant_of_strict {b : Builder} {B : Buckets} {sm : Bool} {dbs : List DatabaseMeta}
    (h : build b B ⟨sm, false⟩ = .ok dbs) : build b B ⟨sm, true⟩ = .ok dbs := by
  -- adding data files does not look at the tolerance
  have hdata : addData ⟨sm, true⟩ = addData ⟨sm, false⟩ := rfl
  cases sm with
  | false =>
    rw [build_free_eq] at h ⊢
    rwa [hdata]
  | true =>
    rw [build_schema_eq, declare_eq] at h ⊢
    by_cases hempty : B.databaseSchemas = []
    · rw [if_pos hempty] at h
      cases h
    · rw [if_neg hempty] at h ⊢
      obtain ⟨b₁, hdecl, h⟩ := except_bind_eq_ok.mp h
      obtain ⟨b₂, hdbs, htables⟩ := except_bind_eq_ok.mp hdecl
      rw [foldlM_tolerant (fun _ _ _ => declareDatabase_tolerant) _ hdbs, except_ok_bind,
        foldlM_tolerant (fun _ _ _ => declareTable_tolerant) _ htables, except_ok_bind, hdata]
      exact h

end Builder

namespace Discovery

/-- Rename rules that keep every identity a discovery classifies change nothing: when the
discovery succeeds without rename rules, it gives the same topology with them. -/
theorem discover_with_identity_routes {d : Discovery} {s : Store} {cancelled : Bool}
    {T : Topology} {rn : Renamer}
    (hid : ∀ b, d.classify s cancelled = .ok b →
      ∀ f ∈ b.tableSchemas ++ b.tableData, rn.route f.name.schema f.name.name = .ok f.name)
    (h : { d with renamer := none }.discover s cancelled = .ok T) :
    { d with renamer := some rn }.discover s cancelled = .ok T := by
  simp only [discover, discoverUnordered, except_bind_eq_ok, except_pure_eq_ok] at h ⊢
  obtain ⟨dbs, ⟨b, hb, _, rfl, hbuild⟩, rfl⟩ := h
  -- classifying does not look at the rename rules
  have hb' : d.classify s cancelled = .ok b := hb
  exact ⟨dbs, ⟨b, hb, b, resolveRenames_of_identity (hid b hb'),
    Builder.build_tolerant_of_strict hbuild⟩, rfl⟩

/-- The rename rules compiled from an empty list keep every identity. -/
theorem route_of_no_rules (rn : Renamer) (h : Renamer.compile [] true = .ok rn)
    (schema table : String) : rn.route schema table = .ok ⟨schema, table⟩ := by
  cases h
  by_cases ht : table.isEmpty <;> simp [Renamer.route, Renamer.single, ht] <;> rfl

/-- The one data file of a store discovered without rename rules gives the same topology
with the rules of an empty list. -/
theorem discover_with_identity_routes_of_no_rules :
    let s := MemoryStore.toStore { files := [("a.t.sql", .sized 5)] }
    let T : Topology :=
      ⟨[{ name := "a"
          tables := [{ db := "a", name := "t", totalSize := 5
                       dataFiles := [⟨"a.t.sql", 5, .data .sql, .none, ""⟩] }] }]⟩
    ∃ d rn, Dump.oneFileConfig.discovery = .ok d ∧ Renamer.compile [] true = .ok rn ∧
      (∀ b, d.classify s false = .ok b →
        ∀ f ∈ b.tableSchemas ++ b.tableData, rn.route f.name.schema f.name.name = .ok f.name) ∧
      { d with renamer := none }.discover s false = .ok T ∧
      { d with renamer := some rn }.discover s false = .ok T := by
  intro s T
  have hrun : Dump.oneFileConfig.discovery.toOption.map
      (fun d => decide (({ d with renamer := none }.discover s false).toOption = some T)) =
        some true := by
    decide +kernel
  obtain ⟨d, hd, hdisc⟩ := exists_ok_of_toOption_map hrun
  have hnone : { d with renamer := none }.discover s false = .ok T := by
    revert hdisc
    cases { d with renamer := none }.discover s false <;> simp [Except.toOption]
  have hid : ∀ b, d.classify s false = .ok b → ∀ f ∈ b.tableSchemas ++ b.tableData,
      (⟨[], []⟩ : Renamer).route f.name.schema f.name.name = .ok f.name :=
    fun _ _ f _ => route_of_no_rules _ rfl _ _
  exact ⟨d, ⟨[], []⟩, hd, rfl, hid, hnone, discover_with_identity_routes hid hnone⟩

end Discovery

end DumpTopology
