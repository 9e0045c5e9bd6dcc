import DumpTopology.Resolution
import DumpTopology.Proofs.Checked
import Mathlib.Data.List.Induction
import Mathlib.Data.List.Forall2

/-!
# The references of a schema under renaming

Resolving renames counts references per schema: one for its declaration and one for each
table declaration, and every record whose schema a renaming changes, table declaration or
data file, takes one reference from its old schema and gives one to its new schema. The
count a schema ends with is therefore its declaration, plus its table declarations after
renaming, plus the data files moved into it, less the data files moved out of it
(`references`): data files take references they never gave.

When every record starts in a declared schema, a schema that a record ends in always has a
declaration record, given or made up, and the declaration survives exactly when that count
is positive (`resolveRenames_closed_iff`). A schema that keeps a table declaration can
therefore lose its declaration, when more of its data files move out than move in.

Whatever happens to the declarations, every table declaration and data file comes out
renamed, in order, with its file unchanged (`resolveRenames_forall₂`).
-/
namespace DumpTopology

/-- The records of a list in a schema. -/
def ownedBy (files : List ClassifiedFile) (s : String) : Nat :=
  (files.filter (·.name.schema == s)).length

namespace Resolution

theorem lookup_filter_ne {l : List (String × SchemaRefs)} {s s' : String} (h : s' ≠ s) :
    (l.filter (·.1 != s)).lookup s' = l.lookup s' := by
  induction l with
  | nil => rfl
  | cons p l ih =>
    obtain ⟨k, v⟩ := p
    by_cases hk : k = s
    · subst hk
      have hne : (s' == k) = false := by simpa using h
      simp [List.lookup_cons, hne, ih]
    · by_cases hk' : s' = k
      · subst hk'
        simp [hk]
      · have hne : (s' == k) = false := by simpa using hk'
        simp [List.lookup_cons, hk, hne, ih]

@[simp] theorem refs_setRefs (r : Resolution) (s : String) (v : SchemaRefs) (s' : String) :
    (r.setRefs s v).refs s' = if s' = s then v else r.refs s' := by
  unfold refs setRefs
  by_cases h : s' = s
  · subst h
    simp
  · have hne : (s' == s) = false := by simpa using h
    simp [List.lookup_cons, hne, h, lookup_filter_ne h]

@[simp] theorem synthesized_setRefs (r : Resolution) (s : String) (v : SchemaRefs) :
    (r.setRefs s v).synthesized = r.synthesized := rfl

@[simp] theorem refs_with_synthesized (r : Resolution) (l : List SchemaDeclaration)
    (s : String) : ({ r with synthesized := l } : Resolution).refs s = r.refs s := rfl

section transfer

variable (r : Resolution) {src tgt : String} (hne : tgt ≠ src)
include hne

/-- A transfer takes one reference from the source and gives one to the target. -/
theorem count_transfer (s : String) :
    ((r.transfer src tgt).refs s).count =
      (r.refs s).count - (if s = src then 1 else 0) + (if s = tgt then 1 else 0) := by
  unfold transfer
  simp only [refs_setRefs, if_neg hne]
  by_cases hs : s = tgt
  · subst hs
    split <;> simp
  · by_cases hs' : s = src
    · subst hs'
      split <;> simp [hs]
    · split <;> simp [hs, hs']

/-- A transfer gives the target a declaration record when it had no references and none. -/
theorem hasRecord_transfer (s : String) :
    ((r.transfer src tgt).refs s).hasRecord =
      if s = tgt then (r.refs tgt).hasRecord || decide ((r.refs tgt).count ≤ 0)
      else (r.refs s).hasRecord := by
  unfold transfer
  simp only [refs_setRefs, if_neg hne]
  by_cases hs : s = tgt
  · subst hs
    cases (r.refs s).hasRecord <;> by_cases hc : (r.refs s).count ≤ 0 <;> simp [hc]
  · by_cases hs' : s = src
    · subst hs'
      split <;> simp [hs]
    · split <;> simp [hs, hs']

/-- A transfer makes up a declaration for the target when it had no references and no
record. -/
theorem synthesized_transfer :
    (r.transfer src tgt).synthesized =
      if (r.refs tgt).count ≤ 0 ∧ (r.refs tgt).hasRecord = false then
        r.synthesized ++ [⟨tgt, (r.refs src).declaration⟩]
      else r.synthesized := by
  unfold transfer
  simp only [refs_setRefs, if_neg hne]
  cases (r.refs tgt).hasRecord <;> by_cases hc : (r.refs tgt).count ≤ 0 <;> simp [hc]

end transfer

theorem move_eq_ok {rename : String → String → Except RuleFault TableName}
    {acc acc' : Resolution × List ClassifiedFile} {f : ClassifiedFile}
    (h : move rename acc f = .ok acc') :
    ∃ target : TableName, rename f.name.schema f.name.name = .ok target ∧ acc' =
      (if target.schema = f.name.schema then acc.1
        else acc.1.transfer f.name.schema target.schema, acc.2 ++ [{ f with name := target }]) := by
  unfold move at h
  split at h
  · cases h
  · rename_i target htarget
    refine ⟨target, htarget, ?_⟩
    cases h
    by_cases hs : target.schema = f.name.schema <;> simp [hs]

/-! ## What the declarations and table declarations start with -/

theorem refs_empty (s : String) : ({} : Resolution).refs s = {} := rfl

/-- After the database declarations, each declared schema has its record and one
reference, and no other schema has either. -/
theorem refs_foldl_declare (decls : List SchemaDeclaration) :
    (decls.foldl declare {}).synthesized = [] ∧ ∀ s,
      ((decls.foldl declare {}).refs s).count = (if s ∈ decls.map (·.schema) then 1 else 0) ∧
      ((decls.foldl declare {}).refs s).hasRecord = decide (s ∈ decls.map (·.schema)) := by
  induction decls using List.reverseRecOn with
  | nil => exact ⟨rfl, fun s => by simp [refs_empty]⟩
  | append_singleton decls d ih =>
    obtain ⟨hsyn, hrefs⟩ := ih
    rw [List.foldl_append, List.foldl_cons, List.foldl_nil]
    generalize decls.foldl declare {} = r at hsyn hrefs ⊢
    unfold declare
    by_cases hd : d.schema ∈ decls.map (·.schema)
    · -- a repeated schema keeps its first declaration
      have hrec : (r.refs d.schema).hasRecord = true := by
        simpa [hd] using (hrefs d.schema).2
      rw [if_pos hrec]
      refine ⟨hsyn, fun s => ?_⟩
      simp only [mem_map_append_singleton_iff hd]
      exact hrefs s
    · have hrec : (r.refs d.schema).hasRecord = false := by
        simpa [hd] using (hrefs d.schema).2
      rw [if_neg (by simp [hrec])]
      refine ⟨hsyn, fun s => ?_⟩
      by_cases hs : s = d.schema
      · subst hs
        simp
      · simpa [hs] using hrefs s

/-- Counting the table declarations gives each schema one reference per declaration. -/
theorem refs_foldl_countTable (tables : List ClassifiedFile) :
    ∀ r : Resolution, (tables.foldl countTable r).synthesized = r.synthesized ∧ ∀ s,
      ((tables.foldl countTable r).refs s).count =
        (r.refs s).count + (ownedBy tables s : Int) ∧
      ((tables.foldl countTable r).refs s).hasRecord = (r.refs s).hasRecord := by
  induction tables with
  | nil => exact fun r => ⟨rfl, fun s => by simp [ownedBy]⟩
  | cons f tables ih =>
    intro r
    obtain ⟨hsyn, hrefs⟩ := ih (r.countTable f)
    rw [List.foldl_cons]
    refine ⟨hsyn, fun s => ?_⟩
    rw [(hrefs s).1, (hrefs s).2]
    by_cases hs : f.name.schema = s
    · subst hs
      simp [countTable, ownedBy]
      omega
    · have hs' : s ≠ f.name.schema := Ne.symm hs
      simp [countTable, ownedBy, hs, hs']

end Resolution

/-! ## Records moved between schemas -/

/-- The records that a renaming, from the records `before` to the records `after`, moves
into a schema from another. -/
def movedInto (before after : List ClassifiedFile) (s : String) : Nat :=
  ((before.zip after).filter fun p => p.2.name.schema == s && p.1.name.schema != s).length

/-- The records that a renaming moves out of a schema. -/
def movedOutOf (before after : List ClassifiedFile) (s : String) : Nat :=
  ((before.zip after).filter fun p => p.1.name.schema == s && p.2.name.schema != s).length

theorem movedInto_append_singleton {pre out : List ClassifiedFile} (h : pre.length = out.length)
    (f f' : ClassifiedFile) (s : String) :
    movedInto (pre ++ [f]) (out ++ [f']) s =
      movedInto pre out s + if f'.name.schema = s ∧ f.name.schema ≠ s then 1 else 0 := by
  rw [movedInto, List.zip_append h]
  by_cases h₁ : f'.name.schema = s <;> by_cases h₂ : f.name.schema = s <;>
    simp [List.filter_append, movedInto, h₁, h₂]

theorem movedOutOf_append_singleton {pre out : List ClassifiedFile}
    (h : pre.length = out.length) (f f' : ClassifiedFile) (s : String) :
    movedOutOf (pre ++ [f]) (out ++ [f']) s =
      movedOutOf pre out s + if f.name.schema = s ∧ f'.name.schema ≠ s then 1 else 0 := by
  rw [movedOutOf, List.zip_append h]
  by_cases h₁ : f.name.schema = s <;> by_cases h₂ : f'.name.schema = s <;>
    simp [List.filter_append, movedOutOf, h₁, h₂]

/-- A renaming changes the records of a schema by those it moves in less those it moves
out. -/
theorem ownedBy_after {before after : List ClassifiedFile} (h : before.length = after.length)
    (s : String) :
    (ownedBy after s : Int) =
      ownedBy before s + movedInto before after s - movedOutOf before after s := by
  induction before generalizing after with
  | nil =>
    cases after with
    | nil => simp [ownedBy, movedInto, movedOutOf]
    | cons _ _ => cases h
  | cons f before ih =>
    cases after with
    | nil => cases h
    | cons f' after =>
      have hlen : before.length = after.length := by simpa using h
      have := ih hlen
      simp only [ownedBy, movedInto, movedOutOf, List.zip_cons_cons, List.filter_cons] at this ⊢
      by_cases h₁ : f.name.schema = s <;> by_cases h₂ : f'.name.schema = s <;>
        simp [h₁, h₂] at this ⊢ <;> omega

/-- The references a schema holds once renaming has moved the records from `b` to `b'`: one
for its declaration, one for each table declaration in it after renaming, and one for each
data file moved into it, less one for each data file moved out of it. -/
def Buckets.references (b b' : Buckets) (s : String) : Int :=
  (if s ∈ b.databaseSchemas.map (·.schema) then 1 else 0) + ownedBy b'.tableSchemas s +
    movedInto b.tableData b'.tableData s - movedOutOf b.tableData b'.tableData s

namespace Resolution

/-! ## Declaration records while moving records -/

/-- What resolution knows of declaration records while records move, given the declared
schemas and the records moved so far: declared schemas keep their record, a record is given
or made up, a made-up one is for a schema that a record moved into, a schema without a
record has no reference, and every schema that a moved record sits in has a record. -/
structure Recorded (decls : List String) (outs : List ClassifiedFile) (r : Resolution) :
    Prop where
  declared : ∀ s ∈ decls, (r.refs s).hasRecord = true
  recorded : ∀ s, (r.refs s).hasRecord = true → s ∈ decls ∨ s ∈ r.synthesized.map (·.schema)
  unrecorded : ∀ s, (r.refs s).hasRecord = false → (r.refs s).count = 0
  synthesized : ∀ s ∈ r.synthesized.map (·.schema), s ∈ outs.map (·.name.schema)
  owners : ∀ s ∈ outs.map (·.name.schema), (r.refs s).hasRecord = true

/-- A schema without a record has no reference, so a transfer into it gives it one. -/
theorem Recorded.target_recorded {decls : List String} {outs : List ClassifiedFile}
    {r : Resolution} (hr : Recorded decls outs r) (tgt : String) :
    ((r.refs tgt).hasRecord || decide ((r.refs tgt).count ≤ 0)) = true := by
  cases h : (r.refs tgt).hasRecord
  · simp [hr.unrecorded _ h]
  · rfl

/-- Moving a record out of a declared schema keeps what is known of the records. -/
theorem Recorded.transfer {decls : List String} {outs : List ClassifiedFile} {r : Resolution}
    (hr : Recorded decls outs r) {f : ClassifiedFile} {target : TableName}
    (hf : f.name.schema ∈ decls) (hne : target.schema ≠ f.name.schema) :
    Recorded decls (outs ++ [{ f with name := target }])
      (r.transfer f.name.schema target.schema) where
  declared s hs := by
    rw [hasRecord_transfer r hne]
    split
    · rename_i h
      subst h
      exact hr.target_recorded _
    · exact hr.declared s hs
  recorded s hs := by
    rw [hasRecord_transfer r hne] at hs
    rw [synthesized_transfer r hne]
    split at hs
    · -- the target: its record was there, or it is the one made up now
      rename_i h
      subst h
      cases hrec : (r.refs target.schema).hasRecord
      · have hc : (r.refs target.schema).count ≤ 0 := by simpa [hrec] using hs
        simp [hc]
      · rcases hr.recorded _ hrec with hd | hsyn
        · exact .inl hd
        · split <;> simp_all
    · rcases hr.recorded s hs with hd | hsyn
      · exact .inl hd
      · split <;> simp_all
  unrecorded s hs := by
    rw [hasRecord_transfer r hne] at hs
    rw [count_transfer r hne]
    split at hs
    · rename_i h
      subst h
      rw [hr.target_recorded] at hs
      cases hs
    · -- neither the target nor the declared source
      rename_i h
      have hs' : s ≠ f.name.schema := fun he => by
        rw [he, hr.declared _ hf] at hs
        cases hs
      simp [h, hs', hr.unrecorded s hs]
  synthesized s hs := by
    rw [synthesized_transfer r hne] at hs
    simp only [List.map_append, List.map_cons, List.map_nil, List.mem_append,
      List.mem_singleton]
    split at hs
    · simp only [List.map_append, List.map_cons, List.map_nil, List.mem_append,
        List.mem_singleton] at hs
      rcases hs with hs | rfl
      · exact .inl (hr.synthesized s hs)
      · exact .inr rfl
    · exact .inl (hr.synthesized s hs)
  owners s hs := by
    rw [hasRecord_transfer r hne]
    simp only [List.map_append, List.map_cons, List.map_nil, List.mem_append,
      List.mem_singleton] at hs
    split
    · exact hr.target_recorded _
    · rename_i h
      rcases hs with hs | rfl
      · exact hr.owners s hs
      · exact absurd rfl h

/-- A record that keeps its schema adds a record of a declared schema. -/
theorem Recorded.keep {decls : List String} {outs : List ClassifiedFile} {r : Resolution}
    (hr : Recorded decls outs r) {f : ClassifiedFile} {target : TableName}
    (hf : f.name.schema ∈ decls) (heq : target.schema = f.name.schema) :
    Recorded decls (outs ++ [{ f with name := target }]) r where
  declared := hr.declared
  recorded := hr.recorded
  unrecorded := hr.unrecorded
  synthesized s hs := by
    simp only [List.map_append, List.mem_append]
    exact .inl (hr.synthesized s hs)
  owners s hs := by
    simp only [List.map_append, List.map_cons, List.map_nil, List.mem_append,
      List.mem_singleton] at hs
    rcases hs with hs | rfl
    · exact hr.owners s hs
    · exact hr.declared _ (heq ▸ hf)

/-- The state while the records of a bucket move, given the counts `c₀` before the bucket
and the records `done` that earlier buckets moved: the records are known as `Recorded`, one
record came out for each that went in, and every count changed by the records moved. -/
def Moving (decls : List String) (c₀ : String → Int) (done pre : List ClassifiedFile)
    (acc : Resolution × List ClassifiedFile) : Prop :=
  Recorded decls (done ++ acc.2) acc.1 ∧ pre.length = acc.2.length ∧
    ∀ s, (acc.1.refs s).count = c₀ s + movedInto pre acc.2 s - movedOutOf pre acc.2 s

theorem Moving.move {rename : String → String → Except RuleFault TableName}
    {decls : List String} {c₀ : String → Int} {done pre : List ClassifiedFile}
    {acc acc' : Resolution × List ClassifiedFile} {f : ClassifiedFile}
    (hf : f.name.schema ∈ decls) (hm : Moving decls c₀ done pre acc)
    (h : Resolution.move rename acc f = .ok acc') : Moving decls c₀ done (pre ++ [f]) acc' := by
  obtain ⟨hrec, hlen, hcount⟩ := hm
  obtain ⟨target, -, rfl⟩ := move_eq_ok h
  have hlen' : (pre ++ [f]).length = (acc.2 ++ [{ f with name := target }]).length := by
    simp [hlen]
  by_cases hs : target.schema = f.name.schema
  · -- the record keeps its schema: no reference moves
    simp only [if_pos hs]
    refine ⟨?_, hlen', fun s => ?_⟩
    · rw [← List.append_assoc]
      exact hrec.keep hf hs
    · rw [movedInto_append_singleton hlen, movedOutOf_append_singleton hlen, hcount s]
      by_cases h₁ : f.name.schema = s <;> simp [hs, h₁]
  · simp only [if_neg hs]
    refine ⟨?_, hlen', fun s => ?_⟩
    · rw [← List.append_assoc]
      exact hrec.transfer hf hs
    · rw [count_transfer _ hs, movedInto_append_singleton hlen,
        movedOutOf_append_singleton hlen, hcount s]
      -- the count of the source and of the target change, and no other
      by_cases h₁ : f.name.schema = s
      · subst h₁
        simp [hs, Ne.symm hs]
        omega
      · by_cases h₂ : target.schema = s
        · subst h₂
          simp [hs, Ne.symm hs]
          omega
        · simp [h₁, h₂, Ne.symm h₁, Ne.symm h₂]

/-- Before a bucket moves, nothing has moved. -/
theorem Moving.start {decls : List String} {done : List ClassifiedFile} {r : Resolution}
    (hr : Recorded decls done r) : Moving decls (fun s => (r.refs s).count) done [] (r, []) :=
  ⟨by simpa using hr, rfl, fun s => by simp [movedInto, movedOutOf]⟩

/-- Moving a bucket whose records all start in declared schemas keeps `Moving`. -/
theorem moving_foldlM {rename : String → String → Except RuleFault TableName}
    {decls : List String} {done : List ClassifiedFile} {r : Resolution}
    {acc : Resolution × List ClassifiedFile} (xs : List ClassifiedFile)
    (hxs : ∀ f ∈ xs, f.name.schema ∈ decls) (hr : Recorded decls done r)
    (h : xs.foldlM (Resolution.move rename) (r, []) = .ok acc) :
    Moving decls (fun s => (r.refs s).count) done xs acc := by
  have key : ∀ (ys : List ClassifiedFile) {p : List ClassifiedFile}
      {a a' : Resolution × List ClassifiedFile}, (∀ y ∈ ys, y.name.schema ∈ decls) →
      Moving decls (fun s => (r.refs s).count) done p a →
      ys.foldlM (Resolution.move rename) a = .ok a' →
      Moving decls (fun s => (r.refs s).count) done (p ++ ys) a' :=
    foldlM_ok_induction fun hq hm hstep => hm.move hq hstep
  simpa using key xs hxs (Moving.start hr) h

end Resolution

/-! ## The declarations that resolution keeps -/

/-- Resolution moves the table declarations, then the data files, and keeps the
declarations, given and made up, of the schemas with references left. -/
theorem resolveRenames_eq_ok {rename : String → String → Except RuleFault TableName}
    {b b' : Buckets} (h : b.resolveRenames rename = .ok b') :
    ∃ r₂ r₃ : Resolution,
      b.tableSchemas.foldlM (Resolution.move rename)
          (b.tableSchemas.foldl Resolution.countTable
            (b.databaseSchemas.foldl Resolution.declare {}), []) = .ok (r₂, b'.tableSchemas) ∧
      b.tableData.foldlM (Resolution.move rename) (r₂, []) = .ok (r₃, b'.tableData) ∧
      b'.databaseSchemas = (b.databaseSchemas ++ r₃.synthesized).filter
        fun d => (r₃.refs d.schema).count > 0 := by
  unfold Buckets.resolveRenames at h
  rcases hT : b.tableSchemas.foldlM (Resolution.move rename)
      (b.tableSchemas.foldl Resolution.countTable
        (b.databaseSchemas.foldl Resolution.declare {}), []) with e | ⟨r₂, ts⟩
  · simp [hT] at h
  · rcases hF : b.tableData.foldlM (Resolution.move rename) (r₂, []) with e | ⟨r₃, td⟩
    · simp [hT, hF] at h
    · simp only [hT, hF, except_ok_bind] at h
      cases h
      exact ⟨r₂, r₃, rfl, hF, rfl⟩

/-- A record and what renaming makes of it: the same file, under the identity that the
rename rules give the record's identity. -/
def RenamedRecord (rename : String → String → Except RuleFault TableName)
    (r r' : ClassifiedFile) : Prop :=
  rename r.name.schema r.name.name = .ok r'.name ∧ r'.file = r.file

/-- Moving the records of a bucket renames each of them, in order. -/
theorem foldlM_move_forall₂ {rename : String → String → Except RuleFault TableName}
    (xs : List ClassifiedFile) {r r' : Resolution} {out : List ClassifiedFile}
    (h : xs.foldlM (Resolution.move rename) (r, []) = .ok (r', out)) :
    List.Forall₂ (RenamedRecord rename) xs out := by
  refine foldlM_ok_invariant (I := fun p a => List.Forall₂ (RenamedRecord rename) p a.2)
    (fun hp hstep => ?_) xs .nil h
  obtain ⟨target, hren, rfl⟩ := Resolution.move_eq_ok hstep
  exact List.rel_append hp (.cons ⟨hren, rfl⟩ .nil)

/-- Resolution renames every table declaration and every data file, each in bucket
order. -/
theorem resolveRenames_forall₂ {rename : String → String → Except RuleFault TableName}
    {b b' : Buckets} (h : b.resolveRenames rename = .ok b') :
    List.Forall₂ (RenamedRecord rename) b.tableSchemas b'.tableSchemas ∧
      List.Forall₂ (RenamedRecord rename) b.tableData b'.tableData := by
  obtain ⟨r₂, r₃, hT, hF, -⟩ := resolveRenames_eq_ok h
  exact ⟨foldlM_move_forall₂ _ hT, foldlM_move_forall₂ _ hF⟩

/-- When every record starts in a declared schema, what is known of the records before any
moves is `Recorded`: declared schemas have their record, and the others have no
reference. -/
theorem recorded_initial {b : Buckets}
    (hdecl : ∀ r ∈ b.tableSchemas ++ b.tableData,
      r.name.schema ∈ b.databaseSchemas.map (·.schema)) :
    Resolution.Recorded (b.databaseSchemas.map (·.schema)) []
      (b.tableSchemas.foldl Resolution.countTable
        (b.databaseSchemas.foldl Resolution.declare {})) := by
  obtain ⟨hsyn₀, hrefs₀⟩ := Resolution.refs_foldl_declare b.databaseSchemas
  obtain ⟨hsyn₁, hrefs₁⟩ := Resolution.refs_foldl_countTable b.tableSchemas
    (b.databaseSchemas.foldl Resolution.declare {})
  constructor
  · intro s hs
    rw [(hrefs₁ s).2, (hrefs₀ s).2]
    exact decide_eq_true hs
  · intro s hs
    rw [(hrefs₁ s).2, (hrefs₀ s).2] at hs
    exact .inl (of_decide_eq_true hs)
  · intro s hs
    rw [(hrefs₁ s).2, (hrefs₀ s).2] at hs
    have hs' : s ∉ b.databaseSchemas.map (·.schema) := of_decide_eq_false hs
    -- no table declaration names an undeclared schema
    have hnone : ownedBy b.tableSchemas s = 0 := by
      rw [ownedBy, List.length_eq_zero_iff, List.filter_eq_nil_iff]
      intro r hr heq
      simp only [beq_iff_eq] at heq
      exact hs' (heq ▸ hdecl r (List.mem_append_left _ hr))
    rw [(hrefs₁ s).1, (hrefs₀ s).1, if_neg hs', hnone]
    rfl
  · intro s hs
    rw [hsyn₁, hsyn₀] at hs
    cases hs
  · intro s hs
    cases hs

/-- When every record starts in a declared schema and resolution succeeds, what is known of
the records is `Recorded` after the table declarations and after the data files, and every
schema ends with its references as its count. -/
theorem resolveRenames_recorded {rename : String → String → Except RuleFault TableName}
    {b b' : Buckets}
    (hdecl : ∀ r ∈ b.tableSchemas ++ b.tableData,
      r.name.schema ∈ b.databaseSchemas.map (·.schema))
    (h : b.resolveRenames rename = .ok b') :
    ∃ r₂ r₃ : Resolution,
      b.tableSchemas.foldlM (Resolution.move rename)
          (b.tableSchemas.foldl Resolution.countTable
            (b.databaseSchemas.foldl Resolution.declare {}), []) = .ok (r₂, b'.tableSchemas) ∧
      b.tableData.foldlM (Resolution.move rename) (r₂, []) = .ok (r₃, b'.tableData) ∧
      b'.databaseSchemas = (b.databaseSchemas ++ r₃.synthesized).filter
        (fun d => (r₃.refs d.schema).count > 0) ∧
      Resolution.Recorded (b.databaseSchemas.map (·.schema)) b'.tableSchemas r₂ ∧
      Resolution.Recorded (b.databaseSchemas.map (·.schema)) (b'.tableSchemas ++ b'.tableData)
        r₃ ∧
      ∀ s, (r₃.refs s).count = b.references b' s := by
  obtain ⟨r₂, r₃, hT, hF, hout⟩ := resolveRenames_eq_ok h
  obtain ⟨hrecT, hlenT, hcountT⟩ := Resolution.moving_foldlM b.tableSchemas
    (fun f hf => hdecl f (List.mem_append_left _ hf)) (recorded_initial hdecl) hT
  simp only [List.nil_append] at hrecT hlenT hcountT
  obtain ⟨hrec, -, hcountF⟩ := Resolution.moving_foldlM b.tableData
    (fun f hf => hdecl f (List.mem_append_right _ hf)) hrecT hF
  simp only at hrec hcountF
  refine ⟨r₂, r₃, hT, hF, hout, hrecT, hrec, fun s => ?_⟩
  -- the count of the declarations and table declarations, then the two buckets' moves
  obtain ⟨-, hrefs₀⟩ := Resolution.refs_foldl_declare b.databaseSchemas
  obtain ⟨-, hrefs₁⟩ := Resolution.refs_foldl_countTable b.tableSchemas
    (b.databaseSchemas.foldl Resolution.declare {})
  have howned := ownedBy_after hlenT s
  rw [hcountF s, hcountT s, (hrefs₁ s).1, (hrefs₀ s).1]
  unfold Buckets.references
  omega

/-- When every record starts in a declared schema and resolution succeeds, a schema keeps a
declaration exactly when it was declared or a record ends in it, and it has references
left. -/
theorem resolveRenames_declarations_iff {rename : String → String → Except RuleFault TableName}
    {b b' : Buckets}
    (hdecl : ∀ r ∈ b.tableSchemas ++ b.tableData,
      r.name.schema ∈ b.databaseSchemas.map (·.schema))
    (h : b.resolveRenames rename = .ok b') (s : String) :
    s ∈ b'.databaseSchemas.map (·.schema) ↔
      (s ∈ b.databaseSchemas.map (·.schema) ∨
        s ∈ (b'.tableSchemas ++ b'.tableData).map (·.name.schema)) ∧
      0 < b.references b' s := by
  obtain ⟨r₂, r₃, -, -, hout, -, hrec, hcounts⟩ := resolveRenames_recorded hdecl h
  have hcount := hcounts s
  rw [hout, List.mem_map]
  constructor
  · rintro ⟨d, hd, rfl⟩
    rw [List.mem_filter, List.mem_append, decide_eq_true_eq] at hd
    obtain ⟨hd, hpos⟩ := hd
    refine ⟨?_, by rw [← hcount]; exact hpos⟩
    rcases hd with hd | hd
    · exact .inl (List.mem_map_of_mem hd)
    · exact .inr (hrec.synthesized d.schema (List.mem_map_of_mem hd))
  · rintro ⟨hs, hpos⟩
    have hpos' : (r₃.refs s).count > 0 := by rw [hcount]; exact hpos
    -- a schema that a record ends in has a record, given or made up
    have hs' : s ∈ b.databaseSchemas.map (·.schema) ∨ s ∈ r₃.synthesized.map (·.schema) := by
      rcases hs with hs | hs
      · exact .inl hs
      · exact hrec.recorded s (hrec.owners s hs)
    rcases hs' with hs' | hs' <;> obtain ⟨d, hd, rfl⟩ := List.mem_map.mp hs'
    · exact ⟨d, List.mem_filter.mpr ⟨List.mem_append_left _ hd, decide_eq_true hpos'⟩, rfl⟩
    · exact ⟨d, List.mem_filter.mpr ⟨List.mem_append_right _ hd, decide_eq_true hpos'⟩, rfl⟩

/-- Renaming keeps every record in a declared schema, when every record starts in one,
exactly when every schema that a record ends in has references left: its declaration and
the table declarations it ends with, together with the data files moved into it, outweigh
the data files moved out of it. -/
theorem resolveRenames_closed_iff {rename : String → String → Except RuleFault TableName}
    {b b' : Buckets}
    (hdecl : ∀ r ∈ b.tableSchemas ++ b.tableData,
      r.name.schema ∈ b.databaseSchemas.map (·.schema))
    (h : b.resolveRenames rename = .ok b') :
    (∀ r ∈ b'.tableSchemas ++ b'.tableData,
      r.name.schema ∈ b'.databaseSchemas.map (·.schema)) ↔
    ∀ r ∈ b'.tableSchemas ++ b'.tableData, 0 < b.references b' r.name.schema := by
  apply forall₂_congr
  intro r hr
  rw [resolveRenames_declarations_iff hdecl h]
  exact and_iff_right (.inr (List.mem_map_of_mem hr))

/-- Moving a whole schema moves its declaration with it: every record ends in the new schema,
which has references, and the old one none. -/
theorem resolveRenames_closed_iff_of_schema_move :
    let rename : String → String → Except RuleFault TableName :=
      fun s t => if s = "a" then .ok ⟨"b", t⟩ else .ok ⟨s, t⟩
    let decl : SourceFile := ⟨"a-schema-create.sql", 0, .databaseSchema, .none, ""⟩
    let table : SourceFile := ⟨"a.t-schema.sql", 0, .tableSchema, .none, ""⟩
    let data : SourceFile := ⟨"a.t.1.sql", 1, .data .sql, .none, "1"⟩
    let b : Buckets :=
      { databaseSchemas := [⟨"a", some decl⟩], tableSchemas := [⟨⟨"a", "t"⟩, table⟩],
        tableData := [⟨⟨"a", "t"⟩, data⟩] }
    let b' : Buckets :=
      { databaseSchemas := [⟨"b", some decl⟩], tableSchemas := [⟨⟨"b", "t"⟩, table⟩],
        tableData := [⟨⟨"b", "t"⟩, data⟩] }
    (∀ r ∈ b.tableSchemas ++ b.tableData, r.name.schema ∈ b.databaseSchemas.map (·.schema)) ∧
      b.resolveRenames rename = .ok b' ∧
      ((∀ r ∈ b'.tableSchemas ++ b'.tableData,
          r.name.schema ∈ b'.databaseSchemas.map (·.schema)) ↔
        ∀ r ∈ b'.tableSchemas ++ b'.tableData, 0 < b.references b' r.name.schema) := by
  intro rename decl table data b b'
  have h : b.resolveRenames rename = .ok b' := by decide +kernel
  exact ⟨by decide +kernel, h, resolveRenames_closed_iff (by decide +kernel) h⟩

/-- Moving one table of a schema with two data files takes three references from the schema
and gives back none it had counted for the data: the schema keeps its other table
declaration but loses its declaration. -/
theorem resolveRenames_drops_declaration_of_kept_table :
    let rename : String → String → Except RuleFault TableName :=
      fun s t => if s = "a" ∧ t = "t" then .ok ⟨"b", t⟩ else .ok ⟨s, t⟩
    let decl : SourceFile := ⟨"a-schema-create.sql", 0, .databaseSchema, .none, ""⟩
    let tableS : SourceFile := ⟨"a.s-schema.sql", 0, .tableSchema, .none, ""⟩
    let tableT : SourceFile := ⟨"a.t-schema.sql", 0, .tableSchema, .none, ""⟩
    let data₁ : SourceFile := ⟨"a.t.1.sql", 1, .data .sql, .none, "1"⟩
    let data₂ : SourceFile := ⟨"a.t.2.sql", 1, .data .sql, .none, "2"⟩
    let b : Buckets :=
      { databaseSchemas := [⟨"a", some decl⟩]
        tableSchemas := [⟨⟨"a", "s"⟩, tableS⟩, ⟨⟨"a", "t"⟩, tableT⟩]
        tableData := [⟨⟨"a", "t"⟩, data₁⟩, ⟨⟨"a", "t"⟩, data₂⟩] }
    let b' : Buckets :=
      { databaseSchemas := [⟨"b", some decl⟩]
        tableSchemas := [⟨⟨"a", "s"⟩, tableS⟩, ⟨⟨"b", "t"⟩, tableT⟩]
        tableData := [⟨⟨"b", "t"⟩, data₁⟩, ⟨⟨"b", "t"⟩, data₂⟩] }
    (∀ r ∈ b.tableSchemas ++ b.tableData, r.name.schema ∈ b.databaseSchemas.map (·.schema)) ∧
      b.resolveRenames rename = .ok b' ∧
      ¬ ∀ r ∈ b'.tableSchemas ++ b'.tableData,
        r.name.schema ∈ b'.databaseSchemas.map (·.schema) := by
  intro rename decl tableS tableT data₁ data₂ b b'
  exact ⟨by decide +kernel, by decide +kernel, by decide +kernel⟩

end DumpTopology
