import DumpTopology.Dump
import DumpTopology.Store.Memory
import DumpTopology.Proofs.LoadOrder
import DumpTopology.Proofs.Rename.References

/-!
# What discovery conserves

A discovery that is not cancelled visits the listing of its store in order. Each file whose
path the rules place with a data kind, under an identity the filter keeps, is a data file
of the discovery (`dataRecords`), and these are exactly what the topology holds: each once
over all tables, with its size, kind, codec and sort key as placed, in the table that the
rename rules make of its identity, in databases and tables of distinct names, with every
table's total the sum of its files' sizes (`Discovery.Conserves`).

The argument follows the phases. Classifying keeps the data files in walk order
(`classify_tableData`); renaming moves each of them to its new identity
(`resolveRenames_forall₂`); the build holds them (`HoldsData.accountsFor`); and load order
only reorders (`AccountsFor.sortForLoad`).
-/
namespace DumpTopology

theorem Store.fold_uncancelled {σ : Type} (s : Store)
    (visit : σ → String → Nat → Except DiscoveryFault σ) (init : σ) :
    s.fold false visit init = s.listing.foldlM (fun st f => visit st f.1 f.2) init := by
  unfold Store.fold Store.walk
  rw [Bool.and_false, if_neg Bool.false_ne_true]
  generalize s.listing = l
  induction l generalizing init with
  | nil => rfl
  | cons f l ih =>
    obtain ⟨path, size⟩ := f
    rw [List.foldlM_cons]
    simp only [walkFiles, Bool.false_eq_true, if_false]
    cases visit init path size with
    | error e => rfl
    | ok st => exact ih st

theorem Buckets.tableData_add (b : Buckets) (p : Placement) (file : SourceFile) :
    (b.add p file).tableData = b.tableData ++ if p.kind.isData then [⟨p.name, file⟩] else [] := by
  unfold Buckets.add
  cases p.kind <;> simp [FileKind.isData]

namespace Discovery

/-- The data files a discovery keeps from a listing, in its order: each file whose path the
rules place with a data kind, under an identity the filter keeps, with its size and the
placement's kind, codec and sort key. -/
def dataRecords (d : Discovery) (listing : List (String × Nat)) : List ClassifiedFile :=
  listing.filterMap fun f =>
    match d.router.route f.1 with
    | .ok (some p) =>
      if p.kind.isData && d.keeps p.name then
        some ⟨p.name, ⟨f.1, f.2, p.kind, p.compression, p.sortKey⟩⟩
      else none
    | _ => none

-- generate the equations here, so that no proof below waits to generate them
section
attribute [local simp] dataRecords
end

theorem mem_dataRecords {d : Discovery} {listing : List (String × Nat)} {path : String}
    {size : Nat} {p : Placement} (hf : (path, size) ∈ listing)
    (hroute : d.router.route path = .ok (some p)) (hdata : p.kind.isData = true)
    (hkeep : d.keeps p.name = true) :
    ⟨p.name, ⟨path, size, p.kind, p.compression, p.sortKey⟩⟩ ∈ d.dataRecords listing :=
  List.mem_filterMap.mpr ⟨(path, size), hf, by simp [hroute, hdata, hkeep]⟩

/-- Accepting a file adds to the data files what the listing of that one file gives. -/
theorem accept_tableData {d : Discovery} {b b' : Buckets} {path : String} {size : Nat}
    (h : d.accept b path size = .ok b') :
    b'.tableData = b.tableData ++ d.dataRecords [(path, size)] := by
  unfold accept at h
  simp only [dataRecords, List.filterMap_cons, List.filterMap_nil]
  split at h
  · cases h
  · rename_i hroute
    cases h
    simp [hroute]
  · rename_i p hroute
    rw [hroute]
    by_cases hkeep : d.keeps p.name = true
    · rw [if_pos hkeep] at h
      cases h
      rw [Buckets.tableData_add]
      by_cases hdata : p.kind.isData = true <;> simp [hkeep, hdata]
    · rw [if_neg hkeep] at h
      cases h
      simp [hkeep]

/-- Classifying a store that is not cancelled keeps its data files in walk order. -/
theorem classify_tableData {d : Discovery} {s : Store} {b : Buckets}
    (h : d.classify s false = .ok b) : b.tableData = d.dataRecords s.listing := by
  rw [classify, Store.fold_uncancelled] at h
  have key : ∀ (fs : List (String × Nat)) {p : List (String × Nat)} {b₀ b₁ : Buckets},
      (∀ f ∈ fs, True) → b₀.tableData = d.dataRecords p →
      fs.foldlM (fun st f => d.accept st f.1 f.2) b₀ = .ok b₁ →
      b₁.tableData = d.dataRecords (p ++ fs) :=
    foldlM_ok_induction fun {_ _ _ _} _ hp hstep => by
      rw [accept_tableData hstep, hp, dataRecords, dataRecords, dataRecords,
        List.filterMap_append]
  have hstart : ({} : Buckets).tableData = d.dataRecords [] := rfl
  simpa using key s.listing (fun _ _ => trivial) hstart h

/-- The identity that the rename rules of a discovery give an identity; without rules, the
identity itself. -/
def renamed (d : Discovery) (id : TableName) : Except RuleFault TableName :=
  match d.renamer with
  | some rn => rn.route id.schema id.name
  | none => .ok id

section
attribute [local simp] renamed
end

/-- The databases a discovery builds come from its classified buckets with every data
file renamed. -/
theorem discoverUnordered_eq_ok {d : Discovery} {s : Store} {cancelled : Bool}
    {dbs : List DatabaseMeta} (h : d.discoverUnordered s cancelled = .ok dbs) :
    ∃ b b', d.classify s cancelled = .ok b ∧
      List.Forall₂ (RenamedRecord fun s t => d.renamed ⟨s, t⟩) b.tableData b'.tableData ∧
      Builder.build {} b' d.policy = .ok dbs := by
  unfold discoverUnordered at h
  rw [except_bind_eq_ok] at h
  obtain ⟨b, hb, h⟩ := h
  cases hrn : d.renamer with
  | none =>
    simp only [hrn, pure] at h
    refine ⟨b, b, hb, List.forall₂_same.mpr fun r _ => ?_, h⟩
    simp [RenamedRecord, renamed, hrn]
  | some rn =>
    simp only [hrn, except_bind_eq_ok] at h
    obtain ⟨b', hb', h⟩ := h
    refine ⟨b, b', hb, ?_, h⟩
    simpa [RenamedRecord, renamed, hrn] using (resolveRenames_forall₂ hb').2

/-- What a topology conserves of the listing that a discovery walked: database names are
distinct, and so are the table names within each database, whose tables carry its name;
the data files over all tables are the discovery's data files, each once; each such file
sits, as placed, in the table that the rename rules make of its identity; and every total
is the sum of its table's file sizes. -/
structure Conserves (d : Discovery) (listing : List (String × Nat)) (topology : Topology) :
    Prop where
  names_nodup : (topology.databases.map (·.name)).Nodup
  tables_nodup : ∀ db ∈ topology.databases, (db.tables.map (·.name)).Nodup
  db_eq : ∀ db ∈ topology.databases, ∀ t ∈ db.tables, t.db = db.name
  files_perm : (topology.tables.flatMap (·.dataFiles)).Perm ((d.dataRecords listing).map (·.file))
  placed : ∀ path size p, (path, size) ∈ listing → d.router.route path = .ok (some p) →
    p.kind.isData = true → d.keeps p.name = true →
    ∃ target, d.renamed p.name = .ok target ∧ ∃ db ∈ topology.databases, ∃ t ∈ db.tables,
      t.identity = target ∧ ⟨path, size, p.kind, p.compression, p.sortKey⟩ ∈ t.dataFiles
  totals : ∀ db ∈ topology.databases, ∀ t ∈ db.tables, t.totalSize = sizeTotal t.dataFiles

end Discovery

theorem forall₂_map_file {R : ClassifiedFile → ClassifiedFile → Prop}
    (hR : ∀ r r', R r r' → r'.file = r.file) {l l' : List ClassifiedFile}
    (h : List.Forall₂ R l l') : l'.map (·.file) = l.map (·.file) := by
  induction h with
  | nil => rfl
  | cons hr _ ih => simp [hR _ _ hr, ih]

theorem forall₂_exists_mem {R : ClassifiedFile → ClassifiedFile → Prop}
    {l l' : List ClassifiedFile} (h : List.Forall₂ R l l') {r : ClassifiedFile} (hr : r ∈ l) :
    ∃ r' ∈ l', R r r' := by
  induction h with
  | nil => cases hr
  | cons hab _ ih =>
    rcases List.mem_cons.mp hr with rfl | hr
    · exact ⟨_, List.mem_cons_self, hab⟩
    · obtain ⟨r', hr', hR⟩ := ih hr
      exact ⟨r', List.mem_cons_of_mem _ hr', hR⟩

/-- Databases that account for the renamed data files of a discovery conserve its
listing. -/
theorem AccountsFor.conserves {d : Discovery} {listing : List (String × Nat)}
    {files : List ClassifiedFile} {dbs : List DatabaseMeta} (h : AccountsFor files dbs)
    (hren : List.Forall₂ (RenamedRecord fun s t => d.renamed ⟨s, t⟩)
      (d.dataRecords listing) files) :
    d.Conserves listing ⟨dbs⟩ where
  names_nodup := h.names_nodup
  tables_nodup := h.tables_nodup
  db_eq := h.db_eq
  files_perm := by
    rw [← forall₂_map_file (fun _ _ hr => hr.2) hren]
    exact h.dataFiles_perm
  placed path size p hf hroute hdata hkeep := by
    obtain ⟨r', hr', hname, hfile⟩ :=
      forall₂_exists_mem hren (Discovery.mem_dataRecords hf hroute hdata hkeep)
    obtain ⟨db, hdb, t, ht, hid, hmem⟩ := h.mem_table r' hr'
    rw [hfile] at hmem
    exact ⟨r'.name, hname, db, hdb, t, ht, hid, hmem⟩
  totals := h.totals

namespace Discovery

/-- A discovery that is not cancelled and succeeds conserves the listing of its store. -/
theorem discover_conserves {d : Discovery} {s : Store} {topology : Topology}
    (h : d.discover s false = .ok topology) : d.Conserves s.listing topology := by
  simp only [discover, except_bind_eq_ok, except_pure_eq_ok] at h
  obtain ⟨dbs, hdbs, rfl⟩ := h
  obtain ⟨b, b', hb, hren, hbuild⟩ := discoverUnordered_eq_ok hdbs
  rw [classify_tableData hb] at hren
  exact (Builder.build_holdsData hbuild).accountsFor.sortForLoad.conserves hren

end Discovery

namespace DiscoveryConfig

/-- Without rename rules, a configuration's discovery has no renamer. -/
theorem renamer_of_routes_nil {c : DiscoveryConfig} {d : Discovery} (h : c.discovery = .ok d)
    (hr : c.routes = []) : d.renamer = none := by
  simp only [discovery, hr, List.isEmpty_nil, if_true, except_bind_eq_ok,
    except_pure_eq_ok] at h
  obtain ⟨_, _, _, rfl, _, _, _, _, rfl⟩ := h
  rfl

end DiscoveryConfig

namespace Dump

/-- A discovered dump is of the store discovered; so it is known from its topology and
character set. -/
theorem discover_eq_ok_of_toOption {c : DiscoveryConfig} {s : Store} {cancelled : Bool}
    {topology : Topology} {charset : Charset}
    (h : (Dump.discover c s cancelled).toOption.map (fun d => (d.topology, d.charset)) =
      some (topology, charset)) :
    Dump.discover c s cancelled = .ok ⟨s, topology, charset⟩ := by
  rcases hx : Dump.discover c s cancelled with e | dump
  · rw [hx] at h
    cases h
  · rw [hx] at h
    simp only [Except.toOption, Option.map_some, Option.some.injEq, Prod.mk.injEq] at h
    obtain ⟨rfl, rfl⟩ := h
    simp only [Dump.discover, except_bind_eq_ok, except_pure_eq_ok] at hx
    obtain ⟨_, _, _, _, _, _, rfl⟩ := hx
    rfl

/-- A discovery of a store that is not cancelled and succeeds conserves the store's data
files: each file whose path the rules place with a data kind, under an identity the filter
keeps, is held exactly once, as placed, in the table that the rename rules make of its
identity, and without rename rules in the table of its identity. -/
theorem discover_conserves_data_files {c : DiscoveryConfig} {s : Store} {dump : Dump}
    (h : Dump.discover c s false = .ok dump) :
    ∃ d : Discovery, c.discovery = .ok d ∧ (c.routes = [] → ∀ id, d.renamed id = .ok id) ∧
      d.Conserves s.listing dump.topology := by
  simp only [Dump.discover, except_bind_eq_ok, except_pure_eq_ok] at h
  obtain ⟨_, _, d, hd, topology, htop, rfl⟩ := h
  refine ⟨d, hd, fun hr id => ?_, Discovery.discover_conserves htop⟩
  rw [Discovery.renamed, DiscoveryConfig.renamer_of_routes_nil hd hr]

/-- A configuration of one path rule, for the one data file `a.t.sql` of table `a.t`,
without schema declarations. -/
def oneFileConfig : DiscoveryConfig :=
  { source :=
    { noSchema := true, caseSensitive := true, defaultFileRules := some false,
      filter := some ["*.*"],
      files := [{ path := some "a.t.sql", schema := "a", table := "t", kind := "sql" }] } }

/-- The one data file of a store lands in the one table of its identity. -/
theorem discover_conserves_data_files_of_one_file :
    ∃ d : Discovery, oneFileConfig.discovery = .ok d ∧
      (oneFileConfig.routes = [] → ∀ id, d.renamed id = .ok id) ∧
      d.Conserves [("a.t.sql", 5)]
        ⟨[{ name := "a"
            tables := [{ db := "a", name := "t", totalSize := 5
                         dataFiles := [⟨"a.t.sql", 5, .data .sql, .none, ""⟩] }] }]⟩ :=
  @discover_conserves_data_files _ (MemoryStore.toStore { files := [("a.t.sql", .sized 5)] }) _
    (@discover_eq_ok_of_toOption _ _ _ _ .auto (by decide +kernel))

end Dump

end DumpTopology
