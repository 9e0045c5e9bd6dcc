import DumpTopology.Proofs.Rename.References
import DumpTopology.Proofs.Builder.Shape

/-!
# The declarations that renaming makes up

A record moved into a schema that has neither references nor a declaration record borrows a
declaration: resolution makes one up for the schema, with the declaration file of the schema
the record came from. When every record starts in a declared schema, this happens exactly
once for each undeclared schema that a record moves into, when the first record arrives, and
such a schema only ever gains references, so its declaration is kept.

The declarations after renaming are therefore the given ones that keep references, in their
order, followed by one made-up declaration for each undeclared schema that receives a
record, in order of arrival, each with the first declaration file of the schema that its
first record left (`resolveRenames_synthesized_declarations`).
-/
namespace DumpTopology

/-- The file of the first declaration of a schema. -/
def firstDeclarationFile (decls : List SchemaDeclaration) (s : String) : Option SourceFile :=
  (decls.find? (·.schema = s)).bind (·.file)

theorem exists_find?_of_declared {decls : List SchemaDeclaration} {s : String}
    (hs : s ∈ decls.map (·.schema)) : ∃ e, decls.find? (·.schema = s) = some e :=
  Option.isSome_iff_exists.mp (List.find?_isSome.mpr (by simpa using hs))

theorem firstDeclarationFile_append_singleton (decls : List SchemaDeclaration)
    (d : SchemaDeclaration) (s : String) :
    firstDeclarationFile (decls ++ [d]) s =
      if s ∉ decls.map (·.schema) ∧ d.schema = s then d.file
      else firstDeclarationFile decls s := by
  unfold firstDeclarationFile
  rw [List.find?_append]
  by_cases hs : s ∈ decls.map (·.schema)
  · obtain ⟨e, he⟩ := exists_find?_of_declared hs
    simp [he, hs]
  · have hnone : decls.find? (·.schema = s) = none := List.find?_eq_none.mpr (by simpa using hs)
    by_cases hd : d.schema = s <;> simp [hnone, hs, hd]

/-- A declared schema's first declaration file is one of the declarations' files. -/
theorem firstDeclarationFile_mem {decls : List SchemaDeclaration} {s : String}
    (hs : s ∈ decls.map (·.schema)) : firstDeclarationFile decls s ∈ decls.map (·.file) := by
  obtain ⟨e, he⟩ := exists_find?_of_declared hs
  rw [firstDeclarationFile, he, Option.bind_some]
  exact List.mem_map_of_mem (List.mem_of_find?_eq_some he)

/-- Each record with what renaming made of it: table declarations first, then data files,
each in bucket order. -/
def Buckets.moves (b b' : Buckets) : List (ClassifiedFile × ClassifiedFile) :=
  b.tableSchemas.zip b'.tableSchemas ++ b.tableData.zip b'.tableData

/-- The declarations that moves of records make up, given the declarations: one for each
undeclared schema that a record moves into, in order of the first record to arrive, with
the first declaration file of the schema that record came from. -/
def synthesizedDeclarations (decls : List SchemaDeclaration)
    (moves : List (ClassifiedFile × ClassifiedFile)) : List SchemaDeclaration :=
  (firstByKey (·.2.name.schema) (moves.filter (·.2.name.schema ∉ decls.map (·.schema)))).map
    fun p => ⟨p.2.name.schema, firstDeclarationFile decls p.1.name.schema⟩

section SynthesizedDeclarations

variable (decls : List SchemaDeclaration) (moves : List (ClassifiedFile × ClassifiedFile))

@[simp] theorem synthesizedDeclarations_nil : synthesizedDeclarations decls [] = [] := rfl

theorem map_schema_synthesizedDeclarations :
    (synthesizedDeclarations decls moves).map (·.schema) =
      (firstByKey (·.2.name.schema)
        (moves.filter (·.2.name.schema ∉ decls.map (·.schema)))).map (·.2.name.schema) := by
  simp [synthesizedDeclarations, Function.comp_def]

/-- A schema has a made-up declaration exactly when it is undeclared and a record moves
into it. -/
theorem mem_map_schema_synthesizedDeclarations {s : String} :
    s ∈ (synthesizedDeclarations decls moves).map (·.schema) ↔
      s ∉ decls.map (·.schema) ∧ s ∈ moves.map (·.2.name.schema) := by
  rw [map_schema_synthesizedDeclarations, mem_map_firstByKey]
  simp only [List.mem_map, List.mem_filter, decide_eq_true_eq]
  constructor
  · rintro ⟨p, ⟨hp, hs⟩, rfl⟩
    exact ⟨hs, p, hp, rfl⟩
  · rintro ⟨hs, p, hp, rfl⟩
    exact ⟨p, ⟨hp, hs⟩, rfl⟩

theorem nodup_map_schema_synthesizedDeclarations :
    ((synthesizedDeclarations decls moves).map (·.schema)).Nodup := by
  rw [map_schema_synthesizedDeclarations]
  exact nodup_map_firstByKey _

/-- One more move makes up a declaration for its schema when that schema is undeclared and
has none made up yet. -/
theorem synthesizedDeclarations_append_singleton (p : ClassifiedFile × ClassifiedFile) :
    synthesizedDeclarations decls (moves ++ [p]) =
      if p.2.name.schema ∉ decls.map (·.schema) ∧
          p.2.name.schema ∉ (synthesizedDeclarations decls moves).map (·.schema) then
        synthesizedDeclarations decls moves ++
          [⟨p.2.name.schema, firstDeclarationFile decls p.1.name.schema⟩]
      else synthesizedDeclarations decls moves := by
  by_cases hp : p.2.name.schema ∈ decls.map (·.schema)
  · -- a move into a declared schema is no candidate
    rw [if_neg fun h => h.1 hp, synthesizedDeclarations, List.filter_append,
      List.filter_cons_of_neg (by simpa using hp), List.filter_nil, List.append_nil]
    rfl
  · have hF : (moves ++ [p]).filter (·.2.name.schema ∉ decls.map (·.schema)) =
        moves.filter (·.2.name.schema ∉ decls.map (·.schema)) ++ [p] := by
      rw [List.filter_append, List.filter_cons_of_pos (by simpa using hp), List.filter_nil]
    by_cases hnew : p.2.name.schema ∈ (synthesizedDeclarations decls moves).map (·.schema)
    · rw [if_neg fun h => h.2 hnew]
      rw [map_schema_synthesizedDeclarations, mem_map_firstByKey] at hnew
      rw [synthesizedDeclarations, hF, firstByKey_append_singleton_of_mem hnew]
      rfl
    · rw [if_pos ⟨hp, hnew⟩]
      rw [map_schema_synthesizedDeclarations, mem_map_firstByKey] at hnew
      rw [synthesizedDeclarations, hF, firstByKey_append_singleton_of_not_mem hnew,
        List.map_append]
      rfl

end SynthesizedDeclarations

namespace Resolution

/-! ## Declaration files during resolution -/

/-- After the database declarations, each schema knows the file of its first declaration. -/
theorem declaration_foldl_declare (decls : List SchemaDeclaration) (s : String) :
    ((decls.foldl declare {}).refs s).declaration = firstDeclarationFile decls s := by
  induction decls using List.reverseRecOn with
  | nil => rfl
  | append_singleton decls d ih =>
    obtain ⟨-, hrefs⟩ := refs_foldl_declare decls
    rw [List.foldl_append, List.foldl_cons, List.foldl_nil, firstDeclarationFile_append_singleton]
    generalize decls.foldl declare {} = r at hrefs ih ⊢
    unfold declare
    by_cases hd : d.schema ∈ decls.map (·.schema)
    · -- a repeated schema keeps its first declaration
      have hrec : (r.refs d.schema).hasRecord = true := by simpa [hd] using (hrefs d.schema).2
      rw [if_pos hrec, ih]
      by_cases hs : d.schema = s
      · subst hs
        simp [hd]
      · simp [hs]
    · have hrec : (r.refs d.schema).hasRecord = false := by simpa [hd] using (hrefs d.schema).2
      rw [if_neg (by simp [hrec])]
      by_cases hs : d.schema = s
      · subst hs
        simp [hd]
      · simp [hs, Ne.symm hs, ih]

theorem declaration_foldl_countTable (tables : List ClassifiedFile) (s : String) :
    ∀ r : Resolution, ((tables.foldl countTable r).refs s).declaration = (r.refs s).declaration := by
  induction tables with
  | nil => exact fun r => rfl
  | cons f tables ih =>
    intro r
    rw [List.foldl_cons, ih]
    by_cases hs : s = f.name.schema <;> simp [countTable, hs]

/-- A transfer keeps the declaration file of every schema with a record. -/
theorem declaration_transfer (r : Resolution) {src tgt s : String} (hne : tgt ≠ src)
    (hs : (r.refs s).hasRecord = true) :
    ((r.transfer src tgt).refs s).declaration = (r.refs s).declaration := by
  unfold transfer
  simp only [refs_setRefs, if_neg hne]
  by_cases hst : s = tgt
  · subst hst
    simp [hs]
  · by_cases hss : s = src
    · subst hss
      split <;> simp [hst]
    · split <;> simp [hst, hss]

/-! ## Made-up declarations while records move -/

section Recorded

variable {decls : List String} {outs : List ClassifiedFile} {r : Resolution}

/-- A schema has a record exactly when it is declared or has a made-up declaration. -/
theorem Recorded.hasRecord_iff (hr : Recorded decls outs r) (s : String) :
    (r.refs s).hasRecord = true ↔ s ∈ decls ∨ s ∈ r.synthesized.map (·.schema) :=
  ⟨hr.recorded s, fun h => h.elim (hr.declared s) fun hs => hr.owners s (hr.synthesized s hs)⟩

/-- A transfer makes up a declaration for its target exactly when the target is undeclared
and has no made-up declaration yet. -/
theorem Recorded.unclaimed_iff (hr : Recorded decls outs r) (s : String) :
    ((r.refs s).count ≤ 0 ∧ (r.refs s).hasRecord = false) ↔
      s ∉ decls ∧ s ∉ r.synthesized.map (·.schema) := by
  rw [← not_or, ← hr.hasRecord_iff, Bool.not_eq_true]
  constructor
  · exact fun h => h.2
  · intro h
    exact ⟨Int.le_of_eq (hr.unrecorded s h), h⟩

end Recorded

/-- The made-up declarations while the records of a bucket move, given the declarations and
the moves of earlier buckets: exactly those of the moves so far, while every declared schema
keeps the file of its first declaration. -/
structure Synthesizing (decls : List SchemaDeclaration)
    (done : List (ClassifiedFile × ClassifiedFile)) (pre : List ClassifiedFile)
    (acc : Resolution × List ClassifiedFile) : Prop where
  synthesized : acc.1.synthesized = synthesizedDeclarations decls (done ++ pre.zip acc.2)
  declarations : ∀ s ∈ decls.map (·.schema),
    (acc.1.refs s).declaration = firstDeclarationFile decls s

theorem Synthesizing.move {rename : String → String → Except RuleFault TableName}
    {decls : List SchemaDeclaration} {done : List (ClassifiedFile × ClassifiedFile)}
    {c₀ : String → Int} {outs pre : List ClassifiedFile}
    {acc acc' : Resolution × List ClassifiedFile} {f : ClassifiedFile}
    (hf : f.name.schema ∈ decls.map (·.schema))
    (hm : Moving (decls.map (·.schema)) c₀ outs pre acc) (hs : Synthesizing decls done pre acc)
    (h : Resolution.move rename acc f = .ok acc') : Synthesizing decls done (pre ++ [f]) acc' := by
  obtain ⟨hrec, hlen, -⟩ := hm
  obtain ⟨hsyn, hdecls⟩ := hs
  obtain ⟨target, -, rfl⟩ := move_eq_ok h
  have hmoves : done ++ (pre ++ [f]).zip (acc.2 ++ [{ f with name := target }]) =
      (done ++ pre.zip acc.2) ++ [(f, { f with name := target })] := by
    simp [List.zip_append hlen]
  by_cases hkeep : target.schema = f.name.schema
  · -- the record stays in its declared schema: nothing is made up
    simp only [if_pos hkeep]
    refine ⟨?_, hdecls⟩
    rw [hmoves, synthesizedDeclarations_append_singleton, if_neg (by simp [hkeep, hf]), hsyn]
  · simp only [if_neg hkeep]
    refine ⟨?_, fun s hs => ?_⟩
    · -- a declaration is made up exactly when the target is new to every list of schemas
      rw [hmoves, synthesizedDeclarations_append_singleton, synthesized_transfer _ hkeep]
      simp only [hrec.unclaimed_iff, hsyn, hdecls _ hf]
    · rw [declaration_transfer _ hkeep (hrec.declared s hs), hdecls s hs]

/-- The moves of a finished bucket are done before the next bucket starts. -/
theorem Synthesizing.next {decls : List SchemaDeclaration}
    {done : List (ClassifiedFile × ClassifiedFile)} {pre out : List ClassifiedFile}
    {r : Resolution} (hs : Synthesizing decls done pre (r, out)) :
    Synthesizing decls (done ++ pre.zip out) [] (r, []) :=
  ⟨by simpa using hs.synthesized, hs.declarations⟩

/-- Moving a bucket whose records all start in declared schemas keeps `Synthesizing`. -/
theorem synthesizing_foldlM {rename : String → String → Except RuleFault TableName}
    {decls : List SchemaDeclaration} {done : List (ClassifiedFile × ClassifiedFile)}
    {outs : List ClassifiedFile} {r : Resolution} {acc : Resolution × List ClassifiedFile}
    (xs : List ClassifiedFile) (hxs : ∀ f ∈ xs, f.name.schema ∈ decls.map (·.schema))
    (hr : Recorded (decls.map (·.schema)) outs r) (hs : Synthesizing decls done [] (r, []))
    (h : xs.foldlM (Resolution.move rename) (r, []) = .ok acc) :
    Synthesizing decls done xs acc := by
  have key : ∀ (ys : List ClassifiedFile) {p : List ClassifiedFile}
      {a a' : Resolution × List ClassifiedFile},
      (∀ y ∈ ys, y.name.schema ∈ decls.map (·.schema)) →
      Moving (decls.map (·.schema)) (fun s => (r.refs s).count) outs p a ∧
        Synthesizing decls done p a →
      ys.foldlM (Resolution.move rename) a = .ok a' →
      Moving (decls.map (·.schema)) (fun s => (r.refs s).count) outs (p ++ ys) a' ∧
        Synthesizing decls done (p ++ ys) a' :=
    foldlM_ok_induction fun hq hm hstep => ⟨hm.1.move hq hstep, hm.2.move hq hm.1 hstep⟩
  simpa using (key xs hxs ⟨Moving.start hr, hs⟩ h).2

end Resolution

/-! ## The declarations after renaming -/

/-- Before any record moves, nothing is made up and every schema knows the file of its
first declaration. -/
theorem synthesizing_initial (b : Buckets) :
    Resolution.Synthesizing b.databaseSchemas [] []
      (b.tableSchemas.foldl Resolution.countTable
        (b.databaseSchemas.foldl Resolution.declare {}), []) where
  synthesized := by
    rw [(Resolution.refs_foldl_countTable _ _).1, (Resolution.refs_foldl_declare _).1]
    rfl
  declarations s _ := by
    rw [Resolution.declaration_foldl_countTable, Resolution.declaration_foldl_declare]

/-- A schema that no record starts in, but that a record ends in, has references: no data
file moves out of it, and a table declaration or a moved data file ends in it. -/
theorem references_pos_of_undeclared {b b' : Buckets}
    (hdecl : ∀ r ∈ b.tableSchemas ++ b.tableData,
      r.name.schema ∈ b.databaseSchemas.map (·.schema))
    (hlen : b.tableData.length = b'.tableData.length) {s : String}
    (hs : s ∉ b.databaseSchemas.map (·.schema))
    (hin : s ∈ (b'.tableSchemas ++ b'.tableData).map (·.name.schema)) :
    0 < b.references b' s := by
  have hfrom : ∀ p ∈ b.tableData.zip b'.tableData, p.1.name.schema ≠ s := fun p hp he =>
    hs (he ▸ hdecl p.1 (List.mem_append_right _ (List.of_mem_zip hp).1))
  have hout : movedOutOf b.tableData b'.tableData s = 0 := by
    rw [movedOutOf, List.length_eq_zero_iff, List.filter_eq_nil_iff]
    intro p hp
    simp [hfrom p hp]
  unfold Buckets.references
  rw [if_neg hs, hout]
  rw [List.map_append, List.mem_append] at hin
  rcases hin with hin | hin
  · -- a table declaration ends in the schema
    obtain ⟨t, ht, rfl⟩ := List.mem_map.mp hin
    have hpos : 0 < ownedBy b'.tableSchemas t.name.schema :=
      List.length_pos_iff_exists_mem.mpr ⟨t, List.mem_filter.mpr ⟨ht, by simp⟩⟩
    omega
  · -- a data file ends in the schema, moved from another
    obtain ⟨f', hf', rfl⟩ := List.mem_map.mp hin
    have hf'' : f' ∈ (b.tableData.zip b'.tableData).map Prod.snd := by
      rw [List.map_snd_zip (Nat.le_of_eq hlen.symm)]
      exact hf'
    obtain ⟨p, hp, rfl⟩ := List.mem_map.mp hf''
    have hpos : 0 < movedInto b.tableData b'.tableData p.2.name.schema :=
      List.length_pos_iff_exists_mem.mpr ⟨p, List.mem_filter.mpr ⟨hp, by simp [hfrom p hp]⟩⟩
    omega

/-- When every record starts in a declared schema and resolution succeeds, the declarations
after renaming are the given ones with references left, in their order, followed by the
declarations that the moves of records make up: one for each undeclared schema that a record
ends in, in order of the first record to arrive (table declarations before data files, each
in bucket order), with the first declaration file of the schema that record left. So no
declared schema gets a made-up declaration, no schema gets two, and every declaration file
is one of the given ones. -/
theorem resolveRenames_synthesized_declarations
    {rename : String → String → Except RuleFault TableName} {b b' : Buckets}
    (hdecl : ∀ r ∈ b.tableSchemas ++ b.tableData,
      r.name.schema ∈ b.databaseSchemas.map (·.schema))
    (h : b.resolveRenames rename = .ok b') :
    b'.databaseSchemas = b.databaseSchemas.filter (fun d => 0 < b.references b' d.schema) ++
        synthesizedDeclarations b.databaseSchemas (b.moves b') ∧
      (∀ s, s ∈ (synthesizedDeclarations b.databaseSchemas (b.moves b')).map (·.schema) ↔
        s ∉ b.databaseSchemas.map (·.schema) ∧
          s ∈ (b'.tableSchemas ++ b'.tableData).map (·.name.schema)) ∧
      ((synthesizedDeclarations b.databaseSchemas (b.moves b')).map (·.schema)).Nodup ∧
      ∀ d ∈ b'.databaseSchemas, d.file ∈ b.databaseSchemas.map (·.file) := by
  obtain ⟨r₂, r₃, hT, hF, hout, hrecT, -, hcount⟩ := resolveRenames_recorded hdecl h
  obtain ⟨hfT, hfF⟩ := resolveRenames_forall₂ h
  have hT' := Resolution.synthesizing_foldlM b.tableSchemas
    (fun f hf => hdecl f (List.mem_append_left _ hf)) (recorded_initial hdecl)
    (synthesizing_initial b) hT
  have hF' := Resolution.synthesizing_foldlM b.tableData
    (fun f hf => hdecl f (List.mem_append_right _ hf)) hrecT hT'.next hF
  have hsyn : r₃.synthesized = synthesizedDeclarations b.databaseSchemas (b.moves b') :=
    hF'.synthesized
  -- the schemas that records end in are the targets of the moves
  have htargets : (b.moves b').map (·.2.name.schema) =
      (b'.tableSchemas ++ b'.tableData).map (·.name.schema) := by
    have hsnd : ∀ {l l' : List ClassifiedFile}, l'.length ≤ l.length →
        (l.zip l').map (·.2.name.schema) = l'.map (·.name.schema) := fun hl => by
      conv_rhs => rw [← List.map_snd_zip hl, List.map_map]
      rfl
    rw [Buckets.moves, List.map_append, List.map_append,
      hsnd (Nat.le_of_eq hfT.length_eq.symm), hsnd (Nat.le_of_eq hfF.length_eq.symm)]
  have hmem : ∀ s, s ∈ (synthesizedDeclarations b.databaseSchemas (b.moves b')).map
      (·.schema) ↔ s ∉ b.databaseSchemas.map (·.schema) ∧
        s ∈ (b'.tableSchemas ++ b'.tableData).map (·.name.schema) := fun s => by
    rw [mem_map_schema_synthesizedDeclarations, htargets]
  -- a made-up declaration keeps its references
  have hkept : (synthesizedDeclarations b.databaseSchemas (b.moves b')).filter
      (fun d => (r₃.refs d.schema).count > 0) =
        synthesizedDeclarations b.databaseSchemas (b.moves b') := by
    rw [List.filter_eq_self]
    intro d hd
    obtain ⟨hs, hin⟩ := (hmem d.schema).mp (List.mem_map_of_mem hd)
    rw [hcount, decide_eq_true_eq]
    exact references_pos_of_undeclared hdecl hfF.length_eq hs hin
  have hdecls : b'.databaseSchemas =
      b.databaseSchemas.filter (fun d => 0 < b.references b' d.schema) ++
        synthesizedDeclarations b.databaseSchemas (b.moves b') := by
    rw [hout, List.filter_append, hsyn, hkept]
    simp only [hcount, gt_iff_lt]
  refine ⟨hdecls, hmem, nodup_map_schema_synthesizedDeclarations _ _, fun d hd => ?_⟩
  rw [hdecls, List.mem_append] at hd
  rcases hd with hd | hd
  · exact List.mem_map_of_mem (List.mem_filter.mp hd).1
  · -- a made-up declaration carries the file of a declared schema
    obtain ⟨p, hp, rfl⟩ := List.mem_map.mp hd
    have hp' : p ∈ b.moves b' := (List.mem_filter.mp (mem_of_mem_firstByKey hp)).1
    have horigin : p.1 ∈ b.tableSchemas ++ b.tableData := by
      rw [Buckets.moves, List.mem_append] at hp'
      rcases hp' with hp' | hp'
      · exact List.mem_append_left _ (List.of_mem_zip hp').1
      · exact List.mem_append_right _ (List.of_mem_zip hp').1
    exact firstDeclarationFile_mem (hdecl _ horigin)

/-- Two schemas merging into a new one, beside a schema that stays: the declaration of the
staying schema is kept, the merged schemas lose theirs, and the new schema gets one made up
from the schema whose record arrived first. -/
theorem resolveRenames_synthesized_declarations_of_merge :
    let rename : String → String → Except RuleFault TableName :=
      fun s t => if s = "x" ∨ s = "y" then .ok ⟨"new", t⟩ else .ok ⟨s, t⟩
    let declX : SourceFile := ⟨"x-schema-create.sql", 0, .databaseSchema, .none, ""⟩
    let declY : SourceFile := ⟨"y-schema-create.sql", 0, .databaseSchema, .none, ""⟩
    let declZ : SourceFile := ⟨"z-schema-create.sql", 0, .databaseSchema, .none, ""⟩
    let table₁ : SourceFile := ⟨"x.t1-schema.sql", 0, .tableSchema, .none, ""⟩
    let table₂ : SourceFile := ⟨"y.t2-schema.sql", 0, .tableSchema, .none, ""⟩
    let table₃ : SourceFile := ⟨"z.t3-schema.sql", 0, .tableSchema, .none, ""⟩
    let data₁ : SourceFile := ⟨"x.t1.1.sql", 1, .data .sql, .none, "1"⟩
    let data₂ : SourceFile := ⟨"y.t2.1.sql", 1, .data .sql, .none, "1"⟩
    let b : Buckets :=
      { databaseSchemas := [⟨"x", some declX⟩, ⟨"y", some declY⟩, ⟨"z", some declZ⟩]
        tableSchemas := [⟨⟨"x", "t1"⟩, table₁⟩, ⟨⟨"y", "t2"⟩, table₂⟩, ⟨⟨"z", "t3"⟩, table₃⟩]
        tableData := [⟨⟨"x", "t1"⟩, data₁⟩, ⟨⟨"y", "t2"⟩, data₂⟩] }
    let b' : Buckets :=
      { databaseSchemas := [⟨"z", some declZ⟩, ⟨"new", some declX⟩]
        tableSchemas := [⟨⟨"new", "t1"⟩, table₁⟩, ⟨⟨"new", "t2"⟩, table₂⟩,
          ⟨⟨"z", "t3"⟩, table₃⟩]
        tableData := [⟨⟨"new", "t1"⟩, data₁⟩, ⟨⟨"new", "t2"⟩, data₂⟩] }
    (∀ r ∈ b.tableSchemas ++ b.tableData, r.name.schema ∈ b.databaseSchemas.map (·.schema)) ∧
      b.resolveRenames rename = .ok b' ∧
      (b'.databaseSchemas = b.databaseSchemas.filter (fun d => 0 < b.references b' d.schema) ++
          synthesizedDeclarations b.databaseSchemas (b.moves b') ∧
        (∀ s, s ∈ (synthesizedDeclarations b.databaseSchemas (b.moves b')).map (·.schema) ↔
          s ∉ b.databaseSchemas.map (·.schema) ∧
            s ∈ (b'.tableSchemas ++ b'.tableData).map (·.name.schema)) ∧
        ((synthesizedDeclarations b.databaseSchemas (b.moves b')).map (·.schema)).Nodup ∧
        ∀ d ∈ b'.databaseSchemas, d.file ∈ b.databaseSchemas.map (·.file)) := by
  intro rename declX declY declZ table₁ table₂ table₃ data₁ data₂ b b'
  have h : b.resolveRenames rename = .ok b' := by decide +kernel
  exact ⟨by decide +kernel, h, resolveRenames_synthesized_declarations (by decide +kernel) h⟩

end DumpTopology
