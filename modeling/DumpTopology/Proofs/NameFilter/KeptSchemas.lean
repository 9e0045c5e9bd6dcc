import DumpTopology.Dump
import DumpTopology.Proofs.Checked
import DumpTopology.Proofs.Wildcard.Star

/-!
# A filter keeps the schema of every table it keeps

Discovery keeps a schema's declaration when the filter keeps the schema, and a table's files
when it keeps the table. A filter that kept a table but not its schema would keep the table
without its database declaration. No filter does that (`filters_matchSchema_of_matchTable`).

A rule list decides a name by the last rule that bears on it. A rule bears on a table when
it matches both names. It bears on a schema when it matches the schema and is positive or
excludes every table, which it does when its table wildcard is written `*`. Suppose the last
rule on a table is positive. Then it bears on the schema too, and a later rule on the schema
that is negative matches every table, so it would bear on the table. Hence the last rule on
the schema is positive as well (`find?_positive_of_find?_positive`). This needs only that a
table wildcard written `*` matches every table, and that holds of every rule read from a
line.

Do and ignore lists decide on a table only within a kept schema. A filter that ignores case
is read again from lowercased lines and queried with lowercased names.
-/
namespace DumpTopology

@[simp] theorem except_mapError_eq_ok {ε ε' α : Type} {x : Except ε α} {g : ε → ε'} {a : α} :
    x.mapError g = .ok a ↔ x = .ok a := by
  cases x <;> simp [Except.mapError]

/-! ## The last rule that bears on a name -/

/-- Rules are searched from the last. Suppose every positive rule that bears on a table bears
on its schema, and every negative rule that bears on the schema bears on the table. Then a
table decided positively has its schema decided positively. -/
theorem find?_positive_of_find?_positive {rules : List FilterRule}
    {onTable onSchema : FilterRule → Bool}
    (hpos : ∀ r ∈ rules, onTable r = true → r.positive = true → onSchema r = true)
    (hneg : ∀ r ∈ rules, onSchema r = true → r.positive = false → onTable r = true)
    (h : ∃ r, rules.find? onTable = some r ∧ r.positive = true) :
    ∃ r, rules.find? onSchema = some r ∧ r.positive = true := by
  induction rules with
  | nil =>
    obtain ⟨r, hr, -⟩ := h
    cases hr
  | cons x rules ih =>
    obtain ⟨r, hr, hrpos⟩ := h
    by_cases hx : onTable x = true
    · -- the rule decides the table, positively, so it decides the schema
      rw [List.find?_cons_of_pos hx] at hr
      cases hr
      exact ⟨x, List.find?_cons_of_pos (hpos x List.mem_cons_self hx hrpos), hrpos⟩
    · rw [List.find?_cons_of_neg hx] at hr
      by_cases hxs : onSchema x = true
      · -- a negative rule on the schema would have decided the table
        have hxpos : x.positive = true := by
          cases hp : x.positive
          · exact absurd (hneg x List.mem_cons_self hxs hp) hx
          · rfl
        exact ⟨x, List.find?_cons_of_pos hxs, hxpos⟩
      · rw [List.find?_cons_of_neg hxs]
        exact ih (fun r hr => hpos r (List.mem_cons_of_mem _ hr))
          (fun r hr => hneg r (List.mem_cons_of_mem _ hr)) ⟨r, hr, hrpos⟩

/-! ## Rule lists -/

theorem Wildcard.source_of_compile {glob : String} {caseless : Bool} {w : Wildcard}
    (h : Wildcard.compile glob caseless = .ok w) : w.source = glob := by
  unfold Wildcard.compile at h
  split at h
  · cases h
    rfl
  · cases h

/-- A rule read from a line has its table wildcard compiled from its own text. -/
theorem FilterRule.compile_table_of_parse {line : String} {r : FilterRule}
    (h : FilterRule.parse line = .ok r) : Wildcard.compile r.table.source false = .ok r.table := by
  unfold FilterRule.parse at h
  -- the polarity, then the split at the first dot
  split at h
  split at h
  · cases h
  · rw [except_bind_eq_ok] at h
    obtain ⟨ws, -, h⟩ := h
    rw [except_bind_eq_ok] at h
    obtain ⟨wt, hwt, h⟩ := h
    rw [except_pure_eq_ok] at h
    subst h
    rw [Wildcard.source_of_compile hwt]
    exact hwt

namespace RuleFilter

theorem matchTable_eq_true_iff (f : RuleFilter) (s t : String) :
    f.matchTable s t = true ↔ ∃ r, f.rules.reverse.find?
      (fun r => r.schema.accepts s && r.table.accepts t) = some r ∧ r.positive = true := by
  unfold matchTable
  split <;> rename_i hfind <;> simp [hfind]

theorem matchSchema_eq_true_iff (f : RuleFilter) (s : String) :
    f.matchSchema s = true ↔ ∃ r, f.rules.reverse.find?
      (fun r => r.schema.accepts s && (r.positive || r.table.source == "*")) = some r ∧
        r.positive = true := by
  unfold matchSchema
  split <;> rename_i hfind <;> simp [hfind]

/-- Every rule whose table wildcard is written `*` matches every table. -/
def StarsMatchAll (f : RuleFilter) : Prop :=
  ∀ r ∈ f.rules, r.table.source = "*" → ∀ t, r.table.accepts t = true

theorem matchSchema_of_matchTable {f : RuleFilter} (hf : f.StarsMatchAll) {s t : String}
    (h : f.matchTable s t = true) : f.matchSchema s = true := by
  rw [matchTable_eq_true_iff] at h
  rw [matchSchema_eq_true_iff]
  refine find?_positive_of_find?_positive ?_ ?_ h
  · intro r _ hr hrpos
    rw [Bool.and_eq_true] at hr
    simp [hr.1, hrpos]
  · -- a negative rule on the schema is written `*` for tables
    intro r hr hs hneg
    simp only [hneg, Bool.false_or, Bool.and_eq_true, beq_iff_eq] at hs
    simp [hs.1, hf r (List.mem_reverse.mp hr) hs.2 t]

theorem starsMatchAll_of_parse {lines : List String} {f : RuleFilter}
    (h : RuleFilter.parse lines = .ok f) : f.StarsMatchAll := by
  unfold parse at h
  obtain ⟨rs, hm, rfl⟩ := except_map_eq_ok.mp h
  intro r hr hstar t
  obtain ⟨line, -, hline⟩ := exists_of_mapM_eq_ok hm r hr
  have hc := FilterRule.compile_table_of_parse hline
  rw [hstar] at hc
  exact Wildcard.accepts_of_compile_star hc t

end RuleFilter

/-- Do and ignore lists decide on a table only within a kept schema. -/
theorem ListFilter.matchSchema_of_matchTable (f : ListFilter) {s t : String}
    (h : f.matchTable s t = true) : f.matchSchema s = true := by
  unfold ListFilter.matchTable at h
  cases hs : f.matchSchema s
  · simp [hs] at h
  · rfl

/-! ## Filters as configured -/

/-- A filter form keeps the schema of every table it keeps. -/
def FilterForm.KeepsSchemas (form : FilterForm) : Prop :=
  ∀ s t, form.matchTable s t = true → form.matchSchema s = true

theorem FilterForm.keepsSchemas_rules {f : RuleFilter} (hf : f.StarsMatchAll) :
    (FilterForm.rules f).KeepsSchemas :=
  fun _ _ h => f.matchSchema_of_matchTable hf h

theorem FilterForm.keepsSchemas_lists (f : ListFilter) : (FilterForm.lists f).KeepsSchemas :=
  fun _ _ h => f.matchSchema_of_matchTable h

/-- A form read again from lowercased lines keeps schemas: a rule list so read is a rule list
read from lines. -/
theorem FilterForm.keepsSchemas_of_foldCase {form form' : FilterForm}
    (h : form.foldCase = .ok form') : form'.KeepsSchemas := by
  cases form with
  | rules f =>
    obtain ⟨f', hf, rfl⟩ := except_map_eq_ok.mp h
    exact FilterForm.keepsSchemas_rules (RuleFilter.starsMatchAll_of_parse hf)
  | lists f =>
    obtain ⟨f', -, rfl⟩ := except_map_eq_ok.mp h
    exact FilterForm.keepsSchemas_lists f'

/-- A filter queries its form with the names as queried, both of them alike. -/
theorem NameFilter.matchSchema_of_matchTable {nf : NameFilter} (hform : nf.form.KeepsSchemas)
    {s t : String} (h : nf.matchTable s t = true) : nf.matchSchema s = true :=
  hform _ _ h

theorem NameFilter.keepsSchemas_caseInsensitive {form : FilterForm} {nf : NameFilter}
    (h : NameFilter.caseInsensitive form = .ok nf) : nf.form.KeepsSchemas := by
  unfold NameFilter.caseInsensitive at h
  rw [except_bind_eq_ok] at h
  obtain ⟨form', hform', h⟩ := h
  rw [except_pure_eq_ok] at h
  subst h
  exact FilterForm.keepsSchemas_of_foldCase hform'

/-- A filter made of a form that keeps schemas keeps them, whether names are case sensitive
or not. -/
theorem NameFilter.keepsSchemas_of_case {form : FilterForm} (hform : form.KeepsSchemas)
    {caseSensitive : Bool} {g : RuleFault → DiscoveryFault} {nf : NameFilter}
    (h : (if caseSensitive then (pure ⟨form, false⟩ : Except DiscoveryFault NameFilter)
      else (NameFilter.caseInsensitive form).mapError g) = .ok nf) : nf.form.KeepsSchemas := by
  split at h
  · rw [except_pure_eq_ok] at h
    subst h
    exact hform
  · rw [except_mapError_eq_ok] at h
    exact NameFilter.keepsSchemas_caseInsensitive h

/-- The filter of a configuration keeps schemas: it is a rule list read from lines or do and
ignore lists, in both cases either as given or read again to ignore case. -/
theorem DiscoveryConfig.keepsSchemas_nameFilter {c : DiscoveryConfig} {nf : NameFilter}
    (h : c.nameFilter = .ok nf) : nf.form.KeepsSchemas := by
  unfold DiscoveryConfig.nameFilter at h
  simp only [pure_bind] at h
  split at h
  · -- do and ignore lists
    rw [except_bind_eq_ok] at h
    obtain ⟨form, hform, h⟩ := h
    obtain ⟨f, -, rfl⟩ := except_map_eq_ok.mp (except_mapError_eq_ok.mp hform)
    exact NameFilter.keepsSchemas_of_case (FilterForm.keepsSchemas_lists f) h
  · -- a rule list read from lines
    rw [except_bind_eq_ok] at h
    obtain ⟨form, hform, h⟩ := h
    obtain ⟨f, hparse, rfl⟩ := except_map_eq_ok.mp (except_mapError_eq_ok.mp hform)
    exact NameFilter.keepsSchemas_of_case
      (FilterForm.keepsSchemas_rules (RuleFilter.starsMatchAll_of_parse hparse)) h

/-! ## Kept tables have kept schemas -/

/-- No filter keeps a table without its schema: neither a rule list read from lines, nor do
and ignore lists, nor a filter that ignores case, nor the filter that a configuration
makes. -/
theorem filters_matchSchema_of_matchTable :
    (∀ lines f, RuleFilter.parse lines = .ok f →
      ∀ s t, f.matchTable s t = true → f.matchSchema s = true) ∧
    (∀ (f : ListFilter) s t, f.matchTable s t = true → f.matchSchema s = true) ∧
    (∀ form nf, NameFilter.caseInsensitive form = .ok nf →
      ∀ s t, nf.matchTable s t = true → nf.matchSchema s = true) ∧
    (∀ (c : DiscoveryConfig) nf, c.nameFilter = .ok nf →
      ∀ s t, nf.matchTable s t = true → nf.matchSchema s = true) :=
  ⟨fun _ _ h _ _ ht =>
      RuleFilter.matchSchema_of_matchTable (RuleFilter.starsMatchAll_of_parse h) ht,
    fun f _ _ ht => f.matchSchema_of_matchTable ht,
    fun _ _ h _ _ ht =>
      NameFilter.matchSchema_of_matchTable (NameFilter.keepsSchemas_caseInsensitive h) ht,
    fun _ _ h _ _ ht =>
      NameFilter.matchSchema_of_matchTable (DiscoveryConfig.keepsSchemas_nameFilter h) ht⟩

/-- A rule list with a negation of one table and one of a whole schema, a do list of one
table, a rule list that ignores case, and the default configuration: each keeps a table,
and so its schema. -/
theorem filters_matchSchema_of_matchTable_of_examples :
    (∃ f, RuleFilter.parse ["*.*", "!shop.audit", "!tmp.*"] = .ok f ∧
      f.matchTable "shop" "orders" = true ∧ f.matchSchema "shop" = true) ∧
    (∃ f, ListFilter.new { doTables := [⟨"shop", "orders"⟩] } = .ok f ∧
      f.matchTable "shop" "orders" = true ∧ f.matchSchema "shop" = true) ∧
    (∃ form nf, FilterForm.rules <$> RuleFilter.parse ["*.*", "!Shop.audit"] = .ok form ∧
      NameFilter.caseInsensitive form = .ok nf ∧
      nf.matchTable "SHOP" "Orders" = true ∧ nf.matchSchema "SHOP" = true) ∧
    (∃ nf, ({} : DiscoveryConfig).nameFilter = .ok nf ∧
      nf.matchTable "Shop" "orders" = true ∧ nf.matchSchema "Shop" = true) := by
  have e₁ : (RuleFilter.parse ["*.*", "!shop.audit", "!tmp.*"]).toOption.map
      (·.matchTable "shop" "orders") = some true := by decide +kernel
  have e₂ : (ListFilter.new { doTables := [⟨"shop", "orders"⟩] }).toOption.map
      (·.matchTable "shop" "orders") = some true := by decide +kernel
  have e₃ : ((FilterForm.rules <$> RuleFilter.parse ["*.*", "!Shop.audit"]) >>=
      NameFilter.caseInsensitive).toOption.map (·.matchTable "SHOP" "Orders") = some true := by
    decide +kernel
  have e₄ : (({} : DiscoveryConfig).nameFilter).toOption.map (·.matchTable "Shop" "orders") =
      some true := by decide +kernel
  obtain ⟨f₁, h₁, ht₁⟩ := exists_ok_of_toOption_map e₁
  obtain ⟨f₂, h₂, ht₂⟩ := exists_ok_of_toOption_map e₂
  obtain ⟨nf₃, h₃, ht₃⟩ := exists_ok_of_toOption_map e₃
  obtain ⟨form, hform, hnf₃⟩ := except_bind_eq_ok.mp h₃
  obtain ⟨nf₄, h₄, ht₄⟩ := exists_ok_of_toOption_map e₄
  obtain ⟨hrules, hlists, hcase, hconfig⟩ := filters_matchSchema_of_matchTable
  exact ⟨⟨f₁, h₁, ht₁, hrules _ f₁ h₁ _ _ ht₁⟩, ⟨f₂, h₂, ht₂, hlists f₂ _ _ ht₂⟩,
    ⟨form, nf₃, hform, hnf₃, ht₃, hcase form nf₃ hnf₃ _ _ ht₃⟩,
    ⟨nf₄, h₄, ht₄, hconfig {} nf₄ h₄ _ _ ht₄⟩⟩

end DumpTopology
