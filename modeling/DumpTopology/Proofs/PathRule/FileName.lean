import DumpTopology.Proofs.Regex.Directories
import DumpTopology.Proofs.Regex.Evaluate
import DumpTopology.Proofs.Checked
import DumpTopology.PathRule

/-!
# The built-in rules read the file name

The built-in path rules classify a path by its last segment, as long as no directory on the
way has a `.` in its name (`route_ignores_dotless_directories`). The rule for ignored files
begins with `.*`, and the three others with the anchored directory loop `(?:[^/]*/)*`. What
follows the loop reads a name with no `/` and is anchored at the end (`Regex.Directories`), and
the templates of the rules do not refer to the whole match. So each rule treats the path as
it treats the name alone (`CompiledPathRule.AlikeOn`), and then so does the router
(`PathRouter.route_eq_of_alikeOn`).

A `.` in a directory name breaks this: `([^/.]+)\.(.*?)-schema\.sql$` matches from inside the
directory across the `/` (`route_reads_past_dotted_directory`).

The facts about the compiled programs, where their states are and which states trap a run
inside a directory, are checked once on the compiled router (`defaultRules_evaluated`). The
same evaluation computes the route of the dotted path, with the cut-off runs of
`Regex.Evaluate` in place of the search (`PathRouter.route_eq_of_routeFuel`).
-/
namespace DumpTopology

open Regex

/-! ## Rules that treat two paths alike -/

/-- A rule treats two paths alike: it matches both, with the same outcome, or neither. -/
def CompiledPathRule.AlikeOn (r : CompiledPathRule) (p q : String) : Prop :=
  match r.pattern.captures p, r.pattern.captures q with
  | some a, some b => r.apply a = r.apply b
  | none, none => True
  | _, _ => False

namespace PathRouter

/-- Where every rule treats two paths alike, the first rule that matches one matches the other,
with the same outcome. -/
theorem firstMatch_rel {p q : String} :
    ∀ {rules : List CompiledPathRule}, (∀ r ∈ rules, r.AlikeOn p q) →
      Option.Rel (fun a b => a.1.apply a.2 = b.1.apply b.2) (firstMatch rules p) (firstMatch rules q)
  | [], _ => .none
  | r :: rest, h => by
    have hr := h r List.mem_cons_self
    unfold CompiledPathRule.AlikeOn at hr
    simp only [firstMatch]
    revert hr
    rcases r.pattern.captures p with _ | a <;> rcases r.pattern.captures q with _ | b <;> intro hr
    · exact firstMatch_rel fun r' hr' => h r' (.tail _ hr')
    · exact hr.elim
    · exact hr.elim
    · exact .some hr

theorem route_eq_of_alikeOn {router : PathRouter} {p q : String}
    (h : ∀ r ∈ router.rules, r.AlikeOn p q) : router.route p = router.route q := by
  unfold route
  have hrel := firstMatch_rel h
  revert hrel
  rcases firstMatch router.rules p with _ | ⟨r, a⟩ <;>
    rcases firstMatch router.rules q with _ | ⟨r', b⟩ <;> intro hrel
  · rfl
  · cases hrel
  · cases hrel
  · cases hrel with
    | some h => exact h

/-- The rule and match the router goes by come from its rules and the path. -/
theorem mem_of_firstMatch {path : String} :
    ∀ {rules : List CompiledPathRule} {r : CompiledPathRule} {caps : Captures},
      firstMatch rules path = some (r, caps) → r ∈ rules ∧ r.pattern.captures path = some caps
  | [], _, _, h => by simp [firstMatch] at h
  | r' :: rest, r, caps, h => by
    simp only [firstMatch] at h
    split at h
    · rename_i caps' hcaps
      cases h
      exact ⟨List.mem_cons_self, hcaps⟩
    · obtain ⟨hmem, hcaps⟩ := mem_of_firstMatch h
      exact ⟨.tail _ hmem, hcaps⟩

end PathRouter

theorem text_of_captures {re : Pattern} {path : String} {caps : Captures}
    (h : re.captures path = some caps) : caps.text = path.toList.toArray := by
  unfold Pattern.captures at h
  obtain ⟨slots, -, rfl⟩ := Option.map_eq_some_iff.mp h
  rfl

/-! ## What a rule does with a match -/

/-- The templates of a rule, in the order the rule expands them. -/
def PathRule.templates (r : PathRule) : List String :=
  [r.kind, r.compression, r.schema, r.table, r.key]

namespace CompiledPathRule

/-- A rule whose templates do not mention the digit `0` does the same with matches that agree on
every group but the whole match. -/
theorem apply_eq_of_agreeOnGroups {r : CompiledPathRule} {a b : Captures} (h : a.AgreeOnGroups b)
    (ht : ∀ t ∈ r.rule.templates, '0' ∉ t.toList) : r.apply a = r.apply b := by
  have hexp : ∀ t ∈ r.rule.templates, a.expand t = b.expand t :=
    fun t hmem => expand_eq_of_agreeOnGroups h (ht t hmem)
  simp only [PathRule.templates, List.mem_cons, List.not_mem_nil, or_false, forall_eq_or_imp,
    forall_eq] at hexp
  obtain ⟨hkind, hcodec, hschema, htable, hkey⟩ := hexp
  simp only [apply, hkind, hcodec, hschema, htable, hkey]

/-- A rule whose kind is `ignore`, without references, drops every match. -/
theorem apply_of_ignore {r : CompiledPathRule} (hk : '$' ∉ r.rule.kind.toList)
    (hi : isIgnoreKind r.rule.kind = true) (caps : Captures) : r.apply caps = .ok none := by
  simp only [apply, expand_of_not_mem hk, hi, if_true]
  rfl

/-- The name a rule gives is its schema template expanded, with its table template expanded or
nothing. -/
theorem name_of_apply {r : CompiledPathRule} {caps : Captures} {p : Placement}
    (h : r.apply caps = .ok (some p)) :
    p.name.schema = caps.expand r.rule.schema ∧
      (p.name.name = "" ∨ p.name.name = caps.expand r.rule.table) := by
  unfold apply at h
  dsimp only at h
  split at h
  · cases h
  · split at h
    · rename_i kind _
      split at h
      · simp only [pure, Except.pure, Except.ok.injEq, Option.some.injEq] at h
        subst h
        cases kind <;> simp [TableName.schemaOnly]
      · cases h
    · cases h

end CompiledPathRule

namespace PathRouter

/-- A router whose name templates avoid a character gives no name with it to a path without
it. -/
theorem route_name_not_mem {router : PathRouter} {ch : Char}
    (hrules : ∀ r ∈ router.rules, ch ∉ r.rule.schema.toList ∧ ch ∉ r.rule.table.toList)
    {path : String} (hpath : ch ∉ path.toList) {p : Placement}
    (h : router.route path = .ok (some p)) :
    ch ∉ p.name.schema.toList ∧ ch ∉ p.name.name.toList := by
  unfold route at h
  split at h
  · rename_i r caps hmatch
    obtain ⟨hmem, hcaps⟩ := mem_of_firstMatch hmatch
    have htext := text_of_captures hcaps
    -- every character of an expansion is in the template or in the path
    have hexp : ∀ t : String, ch ∉ t.toList → ch ∉ (caps.expand t).toList := by
      intro t ht hx
      rcases mem_expand hx with hx | hx
      · exact ht hx
      · rw [htext] at hx
        exact hpath (by simpa using hx)
    obtain ⟨hschema, hname⟩ := CompiledPathRule.name_of_apply h
    refine ⟨hschema ▸ hexp _ (hrules r hmem).1, ?_⟩
    rcases hname with hname | hname
    · simp [hname]
    · exact hname ▸ hexp _ (hrules r hmem).2
  · cases h

end PathRouter

/-! ## Routes computed by the cut-off runs -/

namespace PathRouter

/-- The first rule that matches a path, with matches computed by the cut-off runs. -/
def firstMatchFuel (fuel : Nat) :
    List CompiledPathRule → String → Option (Option (CompiledPathRule × Captures))
  | [], _ => some none
  | r :: rest, path =>
    match r.pattern.capturesFuel fuel path with
    | some (some caps) => some (some (r, caps))
    | some none => firstMatchFuel fuel rest path
    | none => none

/-- A route computed by the cut-off runs; `none` where a cut-off left it undecided. -/
def routeFuel (router : PathRouter) (fuel : Nat) (path : String) :
    Option (Except RuleFault (Option Placement)) :=
  (firstMatchFuel fuel router.rules path).map fun
    | some (r, caps) => r.apply caps
    | none => .ok none

theorem firstMatch_eq_of_firstMatchFuel {fuel : Nat} {path : String} :
    ∀ {rules : List CompiledPathRule} {m : Option (CompiledPathRule × Captures)},
      (∀ r ∈ rules, rankedCheck r.pattern.program.steps = true) →
      firstMatchFuel fuel rules path = some m → firstMatch rules path = m
  | [], m, _, h => by
    simp only [firstMatchFuel, Option.some.injEq] at h
    subst h
    rfl
  | r :: rest, m, hrank, h => by
    simp only [firstMatchFuel] at h
    have hcaps : ∀ v, r.pattern.capturesFuel fuel path = some v → r.pattern.captures path = v :=
      fun _ hv => Pattern.captures_eq_of_capturesFuel
        (emptyRanked_of_rankedCheck (hrank r List.mem_cons_self)) hv
    rcases hc : r.pattern.capturesFuel fuel path with _ | _ | caps <;> simp only [hc] at h
    · cases h
    · simp only [firstMatch, hcaps none hc]
      exact firstMatch_eq_of_firstMatchFuel (fun r' hr' => hrank r' (.tail _ hr')) h
    · cases h
      simp only [firstMatch, hcaps (some caps) hc]

/-- A route the cut-off runs decide is the route, where every rule's ranking holds. -/
theorem route_eq_of_routeFuel {router : PathRouter}
    (hrank : ∀ r ∈ router.rules, rankedCheck r.pattern.program.steps = true) {fuel : Nat}
    {path : String} {v : Except RuleFault (Option Placement)}
    (h : router.routeFuel fuel path = some v) : router.route path = v := by
  unfold routeFuel at h
  obtain ⟨m, hm, rfl⟩ := Option.map_eq_some_iff.mp h
  have hfirst := firstMatch_eq_of_firstMatchFuel hrank hm
  unfold route
  rcases m with _ | ⟨r, caps⟩ <;> simp only [hfirst]

end PathRouter

/-! ## Rules of the two shapes -/

section Shapes

variable {segs : List (List Char)} {name path : String}

/-- Whether a rule's pattern reads directories with the given states, with `W` as the trap
from `z`, and its templates do not refer to the whole match. -/
def CompiledPathRule.dirCheck (r : CompiledPathRule) (l c e x y z : Nat) (W : List Nat) : Bool :=
  let prog := r.pattern.program
  decide (prog.steps[prog.start]? = some (.save 0 l)) &&
  decide (prog.steps[l]? = some (.look .textStart c)) &&
  decide (prog.steps[c]? = some (.split e z)) &&
  decide (prog.steps[e]? = some (.split x y)) &&
  decide (prog.steps[x]? = some (.chars notSlash e)) &&
  decide (prog.steps[y]? = some (.chars slashOnly c)) &&
  rankedCheck prog.steps && endAnchoredBelowCheck prog.steps z &&
  trapsDotless prog.steps W && W.contains z && prog.names.isEmpty &&
  r.rule.templates.all fun t => !t.toList.contains '0'

/-- Whether a rule's pattern begins with a loop like `.*` at the given states, with `W` as the
trap from `z`, and the rule ignores what it matches. -/
def CompiledPathRule.anyPrefixCheck (r : CompiledPathRule) (c x z : Nat) (W : List Nat) : Bool :=
  let prog := r.pattern.program
  decide (prog.steps[prog.start]? = some (.save 0 c)) &&
  decide (prog.steps[c]? = some (.split x z)) &&
  (match prog.steps[x]? with
    | some (.chars _ next) => decide (next = c)
    | _ => false) &&
  rankedCheck prog.steps && endAnchoredBelowCheck prog.steps prog.start &&
  trapsDotless prog.steps W && W.contains z &&
  !r.rule.kind.toList.contains '$' && isIgnoreKind r.rule.kind

theorem CompiledPathRule.alikeOn_of_dirCheck {r : CompiledPathRule} {l c e x y z : Nat}
    {W : List Nat} (h : r.dirCheck l c e x y z W = true)
    (hsegs : ∀ seg ∈ segs, ∀ ch ∈ seg, Dotless ch) (hname : '/' ∉ name.toList)
    (hpath : path.toList = dirChars segs ++ name.toList) : r.AlikeOn path name := by
  simp only [dirCheck, Bool.and_eq_true, decide_eq_true_eq, List.contains_iff_mem,
    List.isEmpty_iff, List.all_eq_true] at h
  obtain ⟨⟨⟨⟨⟨⟨⟨⟨⟨⟨⟨hstart, hanchor⟩, hchoice⟩, hinner⟩, hname'⟩, hslash⟩, hrank⟩, hb⟩, hW⟩,
    hz⟩, hnames⟩, ht⟩ := h
  have hr : ReadsDirectories r.pattern.program l c e x y z :=
    { choice := hchoice, inner := hinner, name := hname', slash := hslash, start := hstart,
      anchor := hanchor }
  have hrel := hr.search_append (emptyRanked_of_rankedCheck hrank) (endAnchoredBelow_of_check hb)
    hW hz hsegs hname
  unfold AlikeOn Pattern.captures
  rw [hpath]
  dsimp only
  revert hrel
  rcases r.pattern.program.search (dirChars segs ++ name.toList).toArray with _ | sT <;>
    rcases r.pattern.program.search name.toList.toArray with _ | sS <;> intro hrel
  · trivial
  · cases hrel
  · cases hrel
  · cases hrel with
    | some hshift =>
      simp only [Option.map_some]
      rw [← List.append_toArray]
      refine apply_eq_of_agreeOnGroups (agreeOnGroups_of_shiftedBy ?_ ?_) fun t ht' h0 => ?_
      · rwa [List.size_toArray]
      · simp [hnames]
      · simpa [h0] using ht t ht'

theorem CompiledPathRule.alikeOn_of_anyPrefixCheck {r : CompiledPathRule} {c x z : Nat}
    {W : List Nat} (h : r.anyPrefixCheck c x z W = true)
    (hsegs : ∀ seg ∈ segs, ∀ ch ∈ seg, Dotless ch)
    (hpath : path.toList = dirChars segs ++ name.toList) : r.AlikeOn path name := by
  simp only [anyPrefixCheck, Bool.and_eq_true, decide_eq_true_eq, List.contains_iff_mem] at h
  obtain ⟨⟨⟨⟨⟨⟨⟨⟨hstart, hchoice⟩, hany⟩, hrank⟩, hb⟩, hW⟩, hz⟩, hk⟩, hi⟩ := h
  have hp : ReadsAnyPrefix r.pattern.program c x z := by
    refine ⟨hstart, hchoice, ?_⟩
    revert hany
    rcases r.pattern.program.steps[x]? with _ | ⟨set, next⟩ | _ | _ | _ | _ <;>
      simp only [decide_eq_true_eq, Bool.false_eq_true, false_imp_iff]
    rintro rfl
    exact ⟨set, rfl⟩
  have hsome := hp.search_append_isSome (emptyRanked_of_rankedCheck hrank)
    (endAnchoredBelow_of_check hb) (Nat.le_refl _) hW hz hsegs name.toList
  unfold AlikeOn Pattern.captures
  rw [hpath]
  dsimp only
  revert hsome
  rcases r.pattern.program.search (dirChars segs ++ name.toList).toArray with _ | sT <;>
    rcases r.pattern.program.search name.toList.toArray with _ | sS <;> intro hsome
  · trivial
  · cases hsome
  · cases hsome
  · simp only [Option.map_some, apply_of_ignore (by simpa using hk) hi]

end Shapes

/-! ## The built-in rules -/

/-- Whether a router has the built-in rules' shapes, at the states where the compiled built-in
rules have them, and names without `/`. -/
def defaultRulesCheck (router : PathRouter) : Bool :=
  (match router.rules with
    | [r₁, r₂, r₃, r₄] =>
      r₁.anyPrefixCheck 37 38 36 (List.range' 6 31) &&
      r₂.dirCheck 29 25 27 28 26 24 (List.range' 6 19) &&
      r₃.dirCheck 27 23 25 26 24 22 (List.range' 18 5) &&
      r₄.dirCheck 46 42 44 45 43 41 (List.range' 37 5)
    | _ => false) &&
  router.rules.all fun r => !r.rule.schema.toList.contains '/' && !r.rule.table.toList.contains '/'

/-- The compiled built-in rules pass `defaultRulesCheck`, every one of them is ranked, and the
cut-off runs decide the route of `a.b/c-schema.sql`: all read off one evaluation of the
compiled router. -/
theorem defaultRules_evaluated :
    (PathRouter.new [] true).toOption.map (fun r => defaultRulesCheck r &&
      r.rules.all (fun c => rankedCheck c.pattern.program.steps) &&
      decide ((r.routeFuel 200 "a.b/c-schema.sql").map Except.toOption =
        some (some (some ⟨⟨"a", "b/c"⟩, .tableSchema, .none, ""⟩)))) = some true := by
  decide +kernel

theorem defaultRulesCheck_new :
    (PathRouter.new [] true).toOption.map defaultRulesCheck = some true := by
  obtain ⟨router, hnew, h⟩ := exists_ok_of_toOption_map defaultRules_evaluated
  simp only [Bool.and_eq_true] at h
  -- rewriting keeps the kernel from evaluating the compilation a second time
  rw [hnew]
  exact congrArg some h.1.1

section Checked

variable {router : PathRouter} (h : defaultRulesCheck router = true)
include h

theorem alikeOn_of_defaultRulesCheck {segs : List (List Char)} {name path : String}
    (hsegs : ∀ seg ∈ segs, ∀ ch ∈ seg, Dotless ch) (hname : '/' ∉ name.toList)
    (hpath : path.toList = dirChars segs ++ name.toList) : ∀ r ∈ router.rules, r.AlikeOn path name := by
  have hshape := (Bool.and_eq_true _ _).mp h |>.1
  -- the rules are the four of the check, in its order
  split at hshape
  · rename_i r₁ r₂ r₃ r₄ _
    simp only [Bool.and_eq_true] at hshape
    obtain ⟨⟨⟨h₁, h₂⟩, h₃⟩, h₄⟩ := hshape
    intro r hr
    simp only [*, List.mem_cons, List.not_mem_nil, or_false] at hr
    rcases hr with rfl | rfl | rfl | rfl
    · exact CompiledPathRule.alikeOn_of_anyPrefixCheck h₁ hsegs hpath
    · exact CompiledPathRule.alikeOn_of_dirCheck h₂ hsegs hname hpath
    · exact CompiledPathRule.alikeOn_of_dirCheck h₃ hsegs hname hpath
    · exact CompiledPathRule.alikeOn_of_dirCheck h₄ hsegs hname hpath
  · cases hshape

theorem slashFree_of_defaultRulesCheck :
    ∀ r ∈ router.rules, '/' ∉ r.rule.schema.toList ∧ '/' ∉ r.rule.table.toList := by
  intro r hr
  have hnames := List.all_eq_true.mp ((Bool.and_eq_true _ _).mp h).2 r hr
  simpa using hnames

end Checked

/-- The built-in rules route a path as they route its last segment, when no directory on the way
has `/` or `.` in its name; and a segment without `/` gets names without `/`. -/
theorem route_ignores_dotless_directories (dirs : List String) (name : String)
    (hdirs : ∀ d ∈ dirs, '/' ∉ d.toList ∧ '.' ∉ d.toList) (hname : '/' ∉ name.toList) :
    ∃ router, PathRouter.new [] true = .ok router ∧
      router.route (String.join (dirs.map (· ++ "/")) ++ name) = router.route name ∧
      ∀ p, router.route name = .ok (some p) →
        '/' ∉ p.name.schema.toList ∧ '/' ∉ p.name.name.toList := by
  obtain ⟨router, hnew, hcheck⟩ := exists_ok_of_toOption_map defaultRulesCheck_new
  have hpath : (String.join (dirs.map (· ++ "/")) ++ name).toList =
      dirChars (dirs.map String.toList) ++ name.toList := by
    simp [dirChars, String.toList_join, List.flatMap_map]
  have hsegs : ∀ seg ∈ dirs.map String.toList, ∀ ch ∈ seg, Dotless ch := by
    simp only [List.mem_map]
    rintro _ ⟨d, hd, rfl⟩ ch hch
    exact ⟨fun h => (hdirs d hd).1 (h ▸ hch), fun h => (hdirs d hd).2 (h ▸ hch)⟩
  refine ⟨router, hnew, PathRouter.route_eq_of_alikeOn
    (alikeOn_of_defaultRulesCheck hcheck hsegs hname hpath), fun p hp => ?_⟩
  exact PathRouter.route_name_not_mem (slashFree_of_defaultRulesCheck hcheck) hname hp

theorem route_ignores_dotless_directories_of_dump :
    ∃ router, PathRouter.new [] true = .ok router ∧
      router.route (String.join (["dump"].map (· ++ "/")) ++ "db.t-schema.sql") =
        router.route "db.t-schema.sql" ∧
      ∀ p, router.route "db.t-schema.sql" = .ok (some p) →
        '/' ∉ p.name.schema.toList ∧ '/' ∉ p.name.name.toList :=
  route_ignores_dotless_directories ["dump"] "db.t-schema.sql" (by decide) (by decide)

/-- A directory with a `.` in its name is read as part of a table name: in `a.b/c-schema.sql`
the table group runs from inside the directory across the `/`, and the path is no longer routed
as `c-schema.sql` is. -/
theorem route_reads_past_dotted_directory :
    ∃ router, PathRouter.new [] true = .ok router ∧
      router.route "a.b/c-schema.sql" = .ok (some ⟨⟨"a", "b/c"⟩, .tableSchema, .none, ""⟩) ∧
      router.route "a.b/c-schema.sql" ≠ router.route "c-schema.sql" := by
  obtain ⟨router, hnew, hval⟩ := exists_ok_of_toOption_map defaultRules_evaluated
  simp only [Bool.and_eq_true, List.all_eq_true, decide_eq_true_eq] at hval
  obtain ⟨⟨hcheck, hrank⟩, hroute⟩ := hval
  have hT : router.route "a.b/c-schema.sql" = .ok (some ⟨⟨"a", "b/c"⟩, .tableSchema, .none, ""⟩) := by
    obtain ⟨v, hv, hv'⟩ := Option.map_eq_some_iff.mp hroute
    rw [PathRouter.route_eq_of_routeFuel hrank hv]
    revert hv'
    cases v <;> simp [Except.toOption]
  refine ⟨router, hnew, hT, fun heq => ?_⟩
  -- the file name alone gets no `/` in its names
  have hname : '/' ∉ "c-schema.sql".toList := by decide
  have hS := PathRouter.route_name_not_mem (slashFree_of_defaultRulesCheck hcheck) hname (heq ▸ hT)
  exact hS.2 (by decide)

end DumpTopology
