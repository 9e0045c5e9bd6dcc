import DumpTopology.Rename
import DumpTopology.Proofs.Checked
import Mathlib.Data.List.Perm.Basic

/-!
# Renaming decides by counting matches

A renamer sorts its rules into table-level rules, those with a table wildcard, and
schema-level rules. For an identity with a table name it collects the table-level rules
that match it; exactly one decides, and two or more are an ambiguity whose report carries
their number. With no table name, or no match, the schema-level rules that match the
schema are counted the same way, and when none matches the identity is kept.

Only the number of matches and, when it is one, that match enter the decision. A
reordering of the rules reorders each level's matches and changes neither, so renamers
compiled from two orderings of one rule list rename every identity alike, errors included
(`Renamer.route_by_match_counts`).
-/
namespace DumpTopology

namespace Renamer

/-- A level decides by the number of its matching rules: none, one, or an ambiguity. -/
theorem single_eq (matched : List CompiledRename) (level : String) :
    single matched level =
      if 2 ≤ matched.length then .error (.ambiguousRoute matched.length level)
      else .ok matched.head? := by
  match matched with
  | [] => rfl
  | [_] => rfl
  | _ :: _ :: rest => simp [single]

theorem single_perm {l l' : List CompiledRename} (h : l.Perm l') (level : String) :
    single l level = single l' level := by
  match l, h with
  | [], h => rw [List.nil_perm.mp h]
  | [r], h => rw [List.singleton_perm.mp h]
  | _ :: _ :: _, h =>
    -- both lists hold at least two rules, and as many
    have hlen := h.length_eq
    rw [single_eq, single_eq, ← hlen]
    simp

/-- Renamers whose levels hold the same rules, in any order, rename alike. -/
theorem route_congr_perm {rn rn' : Renamer} (ht : rn.tableRules.Perm rn'.tableRules)
    (hs : rn.schemaRules.Perm rn'.schemaRules) (schema table : String) :
    rn.route schema table = rn'.route schema table := by
  unfold route
  rw [single_perm (ht.filter _), single_perm (hs.filter _)]

end Renamer

namespace CompiledRename

/-- The table-level rules among `rules` that match the schema and the table. -/
def tableMatches (rules : List CompiledRename) (schema table : String) : List CompiledRename :=
  rules.filter (·.matchesTable schema table)

/-- The schema-level rules among `rules` that match the schema. -/
def schemaMatches (rules : List CompiledRename) (schema : String) : List CompiledRename :=
  rules.filter fun r => r.table.isNone && r.schema.accepts schema

-- generate the equations here, so that no proof below waits to generate them
section
attribute [local simp] tableMatches schemaMatches
end

/-- Only a rule with a table wildcard matches a table. -/
theorem table_isSome_of_matchesTable {r : CompiledRename} {schema table : String}
    (h : r.matchesTable schema table = true) : r.table.isSome = true := by
  unfold matchesTable at h
  cases hr : r.table <;> simp_all

end CompiledRename

namespace Renamer

/-- The table-level rule a rule compiles to has a table wildcard exactly when the rule has
a table pattern. -/
theorem table_isSome_of_compileRule {caseSensitive : Bool} {r : RenameRule}
    {c : CompiledRename} (h : compileRule caseSensitive r = .ok c) :
    c.table.isSome = true ↔ r.tablePattern ≠ "" := by
  unfold compileRule at h
  obtain ⟨ws, -, h⟩ := except_bind_eq_ok.mp h
  by_cases hp : r.tablePattern.isEmpty
  · simp only [hp, if_true, pure_bind, except_pure_eq_ok] at h
    subst h
    simpa using hp
  · simp only [hp, Bool.false_eq_true, if_false] at h
    obtain ⟨table, htable, h⟩ := except_bind_eq_ok.mp h
    obtain ⟨w, -, rfl⟩ := except_map_eq_ok.mp htable
    rw [except_pure_eq_ok] at h
    subst h
    simpa using hp

/-- The levels of a compiled renamer: its table-level rules match as the compiled rules'
table matches, its schema-level rules as their schema matches. -/
theorem matches_of_compile {rules : List RenameRule} {caseSensitive : Bool} {rn : Renamer}
    {compiled : List CompiledRename} (hc : rules.mapM (compileRule caseSensitive) = .ok compiled)
    (h : compile rules caseSensitive = .ok rn) (schema table : String) :
    rn.tableRules.filter (·.matchesTable schema table) =
        CompiledRename.tableMatches compiled schema table ∧
      rn.schemaRules.filter (·.schema.accepts schema) =
        CompiledRename.schemaMatches compiled schema := by
  unfold compile at h
  rw [hc, except_ok_bind, except_pure_eq_ok] at h
  subst h
  constructor
  · simp only [List.filter_filter, CompiledRename.tableMatches]
    congr 1
    funext r
    cases hm : r.matchesTable schema table
    · simp
    · simp [CompiledRename.table_isSome_of_matchesTable hm]
  · simp only [List.filter_filter, CompiledRename.schemaMatches, Bool.and_comm]

theorem route_of_table_single {rn : Renamer} {schema table : String} (ht : table ≠ "")
    {r : CompiledRename} (h : rn.tableRules.filter (·.matchesTable schema table) = [r]) :
    rn.route schema table = .ok (r.apply schema table) := by
  have hne : table.isEmpty = false := by simpa using ht
  simp only [route, hne, h, single, Bool.false_eq_true, if_false, except_ok_bind]
  rfl

theorem route_of_table_ambiguous {rn : Renamer} {schema table : String} (ht : table ≠ "")
    (h : 2 ≤ (rn.tableRules.filter (·.matchesTable schema table)).length) :
    rn.route schema table = .error (.ambiguousRoute
      (rn.tableRules.filter (·.matchesTable schema table)).length "table") := by
  have hne : table.isEmpty = false := by simpa using ht
  simp only [route, hne, Bool.false_eq_true, if_false, single_eq, h, if_true]
  rfl

/-- With no table-level decision the schema level decides. -/
theorem route_of_no_table {rn : Renamer} {schema table : String}
    (h : table = "" ∨ rn.tableRules.filter (·.matchesTable schema table) = []) :
    rn.route schema table = (match single (rn.schemaRules.filter (·.schema.accepts schema))
        "schema" with
      | .ok (some r) => .ok (r.apply schema table)
      | .ok none => .ok ⟨schema, table⟩
      | .error e => .error e) := by
  have hnone : (if table.isEmpty then (pure none : Except RuleFault (Option CompiledRename))
      else single (rn.tableRules.filter (·.matchesTable schema table)) "table") = .ok none := by
    rcases h with rfl | h
    · rfl
    · split
      · rfl
      · rw [h]
        rfl
  unfold route
  split <;> rename_i hte
  all_goals
    simp only [hte, if_true, Bool.false_eq_true, if_false] at hnone
    rw [hnone, except_ok_bind]
    cases single (rn.schemaRules.filter (·.schema.accepts schema)) "schema" with
    | error e => rfl
    | ok o => cases o <;> rfl

end Renamer

/-- A renamer compiled from a rule list decides an identity by counting matches. Exactly
one matching table-level rule (a rule with a table pattern) renames a named table by its
target, whose empty parts keep the identity's own; two or more are an ambiguity reporting
their number at the table level. Otherwise the schema-level rules matching the schema
decide the same way, and with none the identity is kept. Hence every reordering of the
rules compiles too, to a renamer that renames every identity alike, errors included. -/
theorem Renamer.route_by_match_counts {rules : List RenameRule} {caseSensitive : Bool}
    {rn : Renamer} (h : Renamer.compile rules caseSensitive = .ok rn) :
    ∃ compiled : List CompiledRename,
      List.Forall₂ (fun r c => Renamer.compileRule caseSensitive r = .ok c ∧
        (c.table.isSome = true ↔ r.tablePattern ≠ "")) rules compiled ∧
      (∀ schema table,
        let byTable := CompiledRename.tableMatches compiled schema table
        let bySchema := CompiledRename.schemaMatches compiled schema
        (table ≠ "" → ∀ r, byTable = [r] → rn.route schema table = .ok (r.apply schema table)) ∧
        (table ≠ "" → 2 ≤ byTable.length →
          rn.route schema table = .error (.ambiguousRoute byTable.length "table")) ∧
        (table = "" ∨ byTable = [] →
          (∀ r, bySchema = [r] → rn.route schema table = .ok (r.apply schema table)) ∧
          (2 ≤ bySchema.length →
            rn.route schema table = .error (.ambiguousRoute bySchema.length "schema")) ∧
          (bySchema = [] → rn.route schema table = .ok ⟨schema, table⟩))) ∧
      ∀ rules', rules'.Perm rules → ∃ rn', Renamer.compile rules' caseSensitive = .ok rn' ∧
        ∀ schema table, rn'.route schema table = rn.route schema table := by
  have h' := h
  unfold Renamer.compile at h'
  obtain ⟨compiled, hc, h'⟩ := except_bind_eq_ok.mp h'
  rw [except_pure_eq_ok] at h'
  have hall := mapM_eq_ok_iff_forall₂.mp hc
  refine ⟨compiled, hall.imp fun r c hrc => ⟨hrc, Renamer.table_isSome_of_compileRule hrc⟩,
    fun schema table => ?_, fun rules' hperm => ?_⟩
  · obtain ⟨htable, hschema⟩ := Renamer.matches_of_compile hc h schema table
    refine ⟨fun ht r hr => ?_, fun ht hr => ?_, fun hno => ?_⟩
    · exact Renamer.route_of_table_single ht (htable.trans hr)
    · rw [← htable] at hr ⊢
      exact Renamer.route_of_table_ambiguous ht hr
    · have hno' : table = "" ∨ rn.tableRules.filter (·.matchesTable schema table) = [] := by
        rw [htable]
        exact hno
      rw [Renamer.route_of_no_table hno', hschema, Renamer.single_eq]
      refine ⟨fun r hr => by simp [hr], fun hr => by simp [hr], fun hr => by simp [hr]⟩
  · -- the reordered rules compile to the same rules, reordered
    obtain ⟨compiled', hall', hperm'⟩ := List.perm_comp_forall₂ hperm hall
    refine ⟨⟨compiled'.filter (·.table.isSome), compiled'.filter (·.table.isNone)⟩, ?_, ?_⟩
    · unfold Renamer.compile
      rw [mapM_eq_ok_iff_forall₂.mpr hall', except_ok_bind]
      rfl
    · intro schema table
      subst h'
      exact Renamer.route_congr_perm (hperm'.filter _) (hperm'.filter _) schema table

/-- Two table-level rules that both match `shop.orders` are an ambiguity of two, in either
order of the rules. -/
theorem Renamer.route_by_match_counts_of_two_table_rules :
    ∃ rn, Renamer.compile [⟨"shop", "o*", "a", ""⟩, ⟨"shop", "*s", "b", ""⟩] true = .ok rn ∧
      rn.route "shop" "orders" = .error (.ambiguousRoute 2 "table") ∧
      ∀ rules', rules'.Perm [⟨"shop", "o*", "a", ""⟩, ⟨"shop", "*s", "b", ""⟩] →
        ∃ rn', Renamer.compile rules' true = .ok rn' ∧
          rn'.route "shop" "orders" = .error (.ambiguousRoute 2 "table") := by
  have e₁ : (Renamer.compile [⟨"shop", "o*", "a", ""⟩, ⟨"shop", "*s", "b", ""⟩] true).toOption.isSome
      = true := by decide +kernel
  have e₂ : (([⟨"shop", "o*", "a", ""⟩, ⟨"shop", "*s", "b", ""⟩] : List RenameRule).mapM
      (Renamer.compileRule true)).toOption.map
        (fun cs => (CompiledRename.tableMatches cs "shop" "orders").length) = some 2 := by
    decide +kernel
  cases hrn : Renamer.compile [⟨"shop", "o*", "a", ""⟩, ⟨"shop", "*s", "b", ""⟩] true with
  | error e => simp [hrn, Except.toOption] at e₁
  | ok rn =>
    obtain ⟨compiled, hall, hcount, hperm⟩ := Renamer.route_by_match_counts hrn
    have hc := mapM_eq_ok_iff_forall₂.mpr (hall.imp fun _ _ h => h.1)
    have hlen : (CompiledRename.tableMatches compiled "shop" "orders").length = 2 := by
      simpa [hc, Except.toOption] using e₂
    have hroute := (hcount "shop" "orders").2.1 (by decide) (by omega)
    rw [hlen] at hroute
    refine ⟨rn, rfl, hroute, fun rules' hp => ?_⟩
    obtain ⟨rn', h', hr'⟩ := hperm rules' hp
    exact ⟨rn', h', (hr' _ _).trans hroute⟩

end DumpTopology
