import DumpTopology.PathGlob
import DumpTopology.Proofs.Checked

/-!
# The language of a path glob

`GlobMatches run g w` says which paths `w` a glob `g`, its leading `/` dropped, describes:
`**/` stands for a run of whole directories, the empty path or one that ends in `/`; `**` not
before `/` for a run of which `run` holds; `*` and a placeholder `{name}` for a run without
`/`; `?` for one character other than `/`; every other character for itself. `run` is what
`**` may match: any run at all, or, as its pattern `.*` has it, a run without a line break.

The translator reads a glob one piece at a time, and `globInduction` follows it: the empty
glob, `**/`, `**` not before `/`, `*` not before `*`, `?`, a brace, or another character.
Each piece has one equation for the translator and one for the language. A glob is written as
a pattern exactly when every brace starts a placeholder with a nonempty name of letters,
digits and `_` (`globPatternChars_isOk_iff`).
-/
namespace DumpTopology

/-! ## The glob language -/

/-- The paths that a glob describes, given the runs `**` may stand for. -/
inductive GlobMatches (run : List Char → Prop) : List Char → List Char → Prop
  | nil : GlobMatches run [] []
  | dirs {g p q} : (q = [] ∨ q.getLast? = some '/') → GlobMatches run g p →
      GlobMatches run ('*' :: '*' :: '/' :: g) (q ++ p)
  | deep {g p q} : g.head? ≠ some '/' → run q → GlobMatches run g p →
      GlobMatches run ('*' :: '*' :: g) (q ++ p)
  | segment {g p q} : g.head? ≠ some '*' → '/' ∉ q → GlobMatches run g p →
      GlobMatches run ('*' :: g) (q ++ p)
  | one {g p c} : c ≠ '/' → GlobMatches run g p → GlobMatches run ('?' :: g) (c :: p)
  | placeholder {name g p q} : name ≠ [] → (∀ c ∈ name, isPlaceholderChar c = true) →
      '/' ∉ q → GlobMatches run g p → GlobMatches run ('{' :: (name ++ '}' :: g)) (q ++ p)
  | literal {c g p} : c ≠ '*' → c ≠ '?' → c ≠ '{' → GlobMatches run g p →
      GlobMatches run (c :: g) (c :: p)

/-- Every brace of the glob starts a placeholder `{name}` whose name is one or more
placeholder characters. -/
inductive PlaceholdersClosed : List Char → Prop
  | nil : PlaceholdersClosed []
  | placeholder {name g} : name ≠ [] → (∀ c ∈ name, isPlaceholderChar c = true) →
      PlaceholdersClosed g → PlaceholdersClosed ('{' :: (name ++ '}' :: g))
  | other {c g} : c ≠ '{' → PlaceholdersClosed g → PlaceholdersClosed (c :: g)

/-- The glob read one piece at a time, as the translator reads it. The brace case may use
any shorter glob, since a placeholder takes more than the brace. -/
theorem globInduction {motive : List Char → Prop} (nil : motive [])
    (dirs : ∀ g, motive g → motive ('*' :: '*' :: '/' :: g))
    (deep : ∀ g, g.head? ≠ some '/' → motive g → motive ('*' :: '*' :: g))
    (segment : ∀ g, g.head? ≠ some '*' → motive g → motive ('*' :: g))
    (one : ∀ g, motive g → motive ('?' :: g))
    (brace : ∀ g, (∀ g', g'.length ≤ g.length → motive g') → motive ('{' :: g))
    (literal : ∀ c g, c ≠ '*' → c ≠ '?' → c ≠ '{' → motive g → motive (c :: g)) :
    ∀ l, motive l := by
  intro l
  induction h : l.length using Nat.strongRecOn generalizing l with
  | _ n ih =>
    subst h
    have ih' : ∀ g, g.length < l.length → motive g := fun g hg => ih _ hg g rfl
    rcases l with _ | ⟨c, g⟩
    · exact nil
    by_cases hc : c = '*'
    · subst hc
      rcases g with _ | ⟨c', g'⟩
      · exact segment [] (by simp) (ih' [] (by simp))
      by_cases hc' : c' = '*'
      · subst hc'
        rcases g' with _ | ⟨c'', g''⟩
        · exact deep [] (by simp) (ih' [] (by simp))
        by_cases hc'' : c'' = '/'
        · subst hc''
          exact dirs g'' (ih' g'' (by simp only [List.length_cons]; omega))
        · exact deep (c'' :: g'') (by simpa using hc'') (ih' _ (by simp only [List.length_cons]; omega))
      · exact segment (c' :: g') (by simpa using hc') (ih' _ (by simp only [List.length_cons]; omega))
    by_cases hq : c = '?'
    · subst hq
      exact one g (ih' g (by simp only [List.length_cons]; omega))
    by_cases hb : c = '{'
    · subst hb
      exact brace g fun g' hg' => ih' g' (by simp only [List.length_cons]; omega)
    · exact literal c g hc hq hb (ih' g (by simp only [List.length_cons]; omega))


/-! ## The translator, one piece at a time -/

section Translator

variable {g : List Char}

-- The translator's equations, made once here rather than by each lemma below.
attribute [local simp] globPatternChars

theorem globPatternChars_dirs :
    globPatternChars ('*' :: '*' :: '/' :: g) none =
      ("(?:[^/]*/)*".toList ++ ·) <$> globPatternChars g none := by
  rw [globPatternChars]

theorem globPatternChars_deep (hg : g.head? ≠ some '/') :
    globPatternChars ('*' :: '*' :: g) none = (".*".toList ++ ·) <$> globPatternChars g none := by
  rcases g with _ | ⟨c, g⟩
  · rfl
  · rw [globPatternChars]
    intro rest heq
    simp_all

theorem globPatternChars_segment (hg : g.head? ≠ some '*') :
    globPatternChars ('*' :: g) none = ("[^/]*".toList ++ ·) <$> globPatternChars g none := by
  rcases g with _ | ⟨c, g⟩
  · rfl
  · rw [globPatternChars] <;> (intros; simp_all)

theorem globPatternChars_one :
    globPatternChars ('?' :: g) none = ("[^/]".toList ++ ·) <$> globPatternChars g none := by
  rw [globPatternChars]

theorem globPatternChars_brace : globPatternChars ('{' :: g) none = globPatternChars g (some []) := by
  rw [globPatternChars]

theorem globPatternChars_literal {c : Char} (h₁ : c ≠ '*') (h₂ : c ≠ '?') (h₃ : c ≠ '{') :
    globPatternChars (c :: g) none =
      ((Regex.escapeText (String.singleton c)).toList ++ ·) <$> globPatternChars g none := by
  rw [globPatternChars] <;> (intros; simp_all)

/-- A placeholder under reading, its name so far in `acc` last first, is written when a
closing brace follows a run of placeholder characters and the whole name is not empty. -/
theorem globPatternChars_some_eq_ok {acc out : List Char} :
    globPatternChars g (some acc) = .ok out ↔
      ∃ name rest outRest, g = name ++ '}' :: rest ∧
        (∀ c ∈ name, isPlaceholderChar c = true) ∧ acc.reverse ++ name ≠ [] ∧
        globPatternChars rest none = .ok outRest ∧
        out = "(?P<".toList ++ (acc.reverse ++ name) ++ ">[^/]*?)".toList ++ outRest := by
  induction g generalizing acc with
  | nil =>
    simp only [globPatternChars, reduceCtorEq, false_iff]
    rintro ⟨name, rest, -, h, -⟩
    cases name <;> cases h
  | cons c g ih =>
    by_cases hc : c = '}'
    · subst hc
      rw [globPatternChars]
      constructor
      · intro h
        split at h
        · cases h
        · rename_i hne
          obtain ⟨outRest, hrest, rfl⟩ := except_map_eq_ok.mp h
          exact ⟨[], g, outRest, rfl, nofun, by simpa using hne, hrest, by simp⟩
      · rintro ⟨name, rest, outRest, hg, hname, hne, hrest, rfl⟩
        -- the name stops at the first closing brace
        obtain ⟨rfl, rfl⟩ : name = [] ∧ rest = g := by
          cases name with
          | nil => simpa using hg.symm
          | cons d name =>
            simp only [List.cons_append, List.cons.injEq] at hg
            have := hname d List.mem_cons_self
            rw [← hg.1] at this
            simp [isPlaceholderChar] at this
        have hacc : acc.isEmpty = false := by simpa using hne
        simp only [hacc, Bool.false_eq_true, if_false, hrest, List.append_nil, List.append_assoc]
        rfl
    · rw [globPatternChars]
      · by_cases hp : isPlaceholderChar c = true
        · rw [if_pos hp, ih]
          constructor
          · rintro ⟨name, rest, outRest, rfl, hname, hne, hrest, rfl⟩
            refine ⟨c :: name, rest, outRest, rfl, ?_, by simp, hrest, by simp⟩
            intro d hd
            rcases List.mem_cons.mp hd with rfl | hd
            · exact hp
            · exact hname d hd
          · rintro ⟨name, rest, outRest, hg, hname, -, hrest, rfl⟩
            cases name with
            | nil => exact absurd (List.cons.inj hg).1 hc
            | cons d name =>
              simp only [List.cons_append, List.cons.injEq] at hg
              obtain ⟨rfl, rfl⟩ := hg
              exact ⟨name, rest, outRest, rfl, fun d hd => hname d (.tail _ hd), by simp,
                hrest, by simp⟩
        · rw [if_neg hp]
          simp only [reduceCtorEq, false_iff]
          rintro ⟨name, rest, outRest, hg, hname, -⟩
          cases name with
          | nil => exact hc (List.cons.inj hg).1
          | cons d name =>
            simp only [List.cons_append, List.cons.injEq] at hg
            exact hp (hg.1 ▸ hname d List.mem_cons_self)
      · exact hc

end Translator

/-! ## The language, one piece at a time -/

/-- A placeholder name holds no closing brace, so it ends at the first one. -/
theorem placeholder_split_inj {name name' g g' : List Char}
    (hname : ∀ c ∈ name, isPlaceholderChar c = true)
    (hname' : ∀ c ∈ name', isPlaceholderChar c = true)
    (h : name ++ '}' :: g = name' ++ '}' :: g') : name = name' ∧ g = g' := by
  induction name generalizing name' with
  | nil =>
    cases name' with
    | nil => simpa using h
    | cons d name' =>
      have hd := hname' d List.mem_cons_self
      simp only [List.nil_append, List.cons_append, List.cons.injEq] at h
      rw [← h.1] at hd
      simp [isPlaceholderChar] at hd
  | cons c name ih =>
    cases name' with
    | nil =>
      have hc := hname c List.mem_cons_self
      simp only [List.nil_append, List.cons_append, List.cons.injEq] at h
      rw [h.1] at hc
      simp [isPlaceholderChar] at hc
    | cons d name' =>
      simp only [List.cons_append, List.cons.injEq] at h
      obtain ⟨rfl, h⟩ := h
      obtain ⟨rfl, rfl⟩ := ih (fun x hx => hname x (.tail _ hx)) (fun x hx => hname' x (.tail _ hx)) h
      exact ⟨rfl, rfl⟩

section Language

variable {run : List Char → Prop} {g w : List Char}

theorem globMatches_nil : GlobMatches run [] w ↔ w = [] := by
  constructor
  · intro h
    cases h
    rfl
  · rintro rfl
    exact .nil

theorem globMatches_dirs :
    GlobMatches run ('*' :: '*' :: '/' :: g) w ↔
      ∃ q p, w = q ++ p ∧ (q = [] ∨ q.getLast? = some '/') ∧ GlobMatches run g p := by
  constructor
  · intro h
    generalize hl : ('*' :: '*' :: '/' :: g) = l at h
    cases h with
    | dirs hq hg =>
      simp only [List.cons.injEq, true_and] at hl
      subst hl
      exact ⟨_, _, rfl, hq, hg⟩
    | deep hhead =>
      simp only [List.cons.injEq, true_and] at hl
      subst hl
      simp at hhead
    | segment hhead =>
      simp only [List.cons.injEq, true_and] at hl
      subst hl
      simp at hhead
    | literal h₁ h₂ => exact absurd (List.cons.inj hl).1.symm (by assumption)
    | _ => simp_all
  · rintro ⟨q, p, rfl, hq, hg⟩
    exact .dirs hq hg

theorem globMatches_deep (hg : g.head? ≠ some '/') :
    GlobMatches run ('*' :: '*' :: g) w ↔ ∃ q p, w = q ++ p ∧ run q ∧ GlobMatches run g p := by
  constructor
  · intro h
    generalize hl : ('*' :: '*' :: g) = l at h
    cases h with
    | dirs =>
      simp only [List.cons.injEq, true_and] at hl
      subst hl
      simp at hg
    | deep _ hr hrest =>
      simp only [List.cons.injEq, true_and] at hl
      subst hl
      exact ⟨_, _, rfl, hr, hrest⟩
    | segment hhead =>
      simp only [List.cons.injEq, true_and] at hl
      subst hl
      simp at hhead
    | literal h₁ h₂ => exact absurd (List.cons.inj hl).1.symm (by assumption)
    | _ => simp_all
  · rintro ⟨q, p, rfl, hr, hrest⟩
    exact .deep hg hr hrest

theorem globMatches_segment (hg : g.head? ≠ some '*') :
    GlobMatches run ('*' :: g) w ↔ ∃ q p, w = q ++ p ∧ '/' ∉ q ∧ GlobMatches run g p := by
  constructor
  · intro h
    generalize hl : ('*' :: g) = l at h
    cases h with
    | dirs =>
      simp only [List.cons.injEq, true_and] at hl
      subst hl
      simp at hg
    | deep =>
      simp only [List.cons.injEq, true_and] at hl
      subst hl
      simp at hg
    | segment _ hq hrest =>
      simp only [List.cons.injEq, true_and] at hl
      subst hl
      exact ⟨_, _, rfl, hq, hrest⟩
    | literal h₁ h₂ => exact absurd (List.cons.inj hl).1.symm (by assumption)
    | _ => simp_all
  · rintro ⟨q, p, rfl, hq, hrest⟩
    exact .segment hg hq hrest

theorem globMatches_one :
    GlobMatches run ('?' :: g) w ↔ ∃ c p, w = c :: p ∧ c ≠ '/' ∧ GlobMatches run g p := by
  constructor
  · intro h
    generalize hl : ('?' :: g) = l at h
    cases h with
    | one hc hrest =>
      simp only [List.cons.injEq, true_and] at hl
      subst hl
      exact ⟨_, _, rfl, hc, hrest⟩
    | literal h₁ h₂ => exact absurd (List.cons.inj hl).1.symm (by assumption)
    | _ => simp_all
  · rintro ⟨c, p, rfl, hc, hrest⟩
    exact .one hc hrest

theorem globMatches_placeholder {name : List Char} (hne : name ≠ [])
    (hname : ∀ c ∈ name, isPlaceholderChar c = true) :
    GlobMatches run ('{' :: (name ++ '}' :: g)) w ↔
      ∃ q p, w = q ++ p ∧ '/' ∉ q ∧ GlobMatches run g p := by
  constructor
  · intro h
    generalize hl : ('{' :: (name ++ '}' :: g)) = l at h
    cases h with
    | placeholder _ hname' hq hrest =>
      simp only [List.cons.injEq, true_and] at hl
      obtain ⟨-, rfl⟩ := placeholder_split_inj hname hname' hl
      exact ⟨_, _, rfl, hq, hrest⟩
    | literal _ _ h₃ => exact absurd (List.cons.inj hl).1.symm h₃
    | _ => simp_all
  · rintro ⟨q, p, rfl, hq, hrest⟩
    exact .placeholder hne hname hq hrest

theorem globMatches_literal {c : Char} (h₁ : c ≠ '*') (h₂ : c ≠ '?') (h₃ : c ≠ '{') :
    GlobMatches run (c :: g) w ↔ ∃ p, w = c :: p ∧ GlobMatches run g p := by
  constructor
  · intro h
    generalize hl : (c :: g) = l at h
    cases h with
    | literal _ _ _ hrest =>
      simp only [List.cons.injEq] at hl
      obtain ⟨rfl, rfl⟩ := hl
      exact ⟨_, rfl, hrest⟩
    | _ => simp_all
  · rintro ⟨p, rfl, hrest⟩
    exact .literal h₁ h₂ h₃ hrest

end Language

/-! ## When a glob is written as a pattern -/

theorem placeholdersClosed_cons {c : Char} {g : List Char} (hc : c ≠ '{') :
    PlaceholdersClosed (c :: g) ↔ PlaceholdersClosed g := by
  constructor
  · intro h
    cases h with
    | placeholder => exact absurd rfl hc
    | other _ h => exact h
  · exact .other hc

theorem placeholdersClosed_brace {g : List Char} :
    PlaceholdersClosed ('{' :: g) ↔ ∃ name rest, g = name ++ '}' :: rest ∧ name ≠ [] ∧
      (∀ c ∈ name, isPlaceholderChar c = true) ∧ PlaceholdersClosed rest := by
  constructor
  · intro h
    cases h with
    | placeholder hne hname hrest => exact ⟨_, _, rfl, hne, hname, hrest⟩
    | other hc _ => exact absurd rfl hc
  · rintro ⟨name, rest, rfl, hne, hname, hrest⟩
    exact .placeholder hne hname hrest

theorem isOk_map {ε α β : Type} {f : α → β} {x : Except ε α} :
    (∃ b, f <$> x = .ok b) ↔ ∃ a, x = .ok a :=
  ⟨fun ⟨_, h⟩ => let ⟨a, ha, _⟩ := except_map_eq_ok.mp h; ⟨a, ha⟩,
    fun ⟨a, ha⟩ => ⟨f a, by rw [ha]; rfl⟩⟩

/-- The translator writes a glob exactly when every brace of it starts a placeholder with a
nonempty name of placeholder characters. -/
theorem globPatternChars_isOk_iff (l : List Char) :
    (∃ out, globPatternChars l none = .ok out) ↔ PlaceholdersClosed l := by
  induction l using globInduction with
  | nil => exact ⟨fun _ => .nil, fun _ => ⟨[], rfl⟩⟩
  | dirs g ih =>
    rw [globPatternChars_dirs, isOk_map, ih, placeholdersClosed_cons (by decide),
      placeholdersClosed_cons (by decide), placeholdersClosed_cons (by decide)]
  | deep g hg ih =>
    rw [globPatternChars_deep hg, isOk_map, ih, placeholdersClosed_cons (by decide),
      placeholdersClosed_cons (by decide)]
  | segment g hg ih =>
    rw [globPatternChars_segment hg, isOk_map, ih, placeholdersClosed_cons (by decide)]
  | one g ih => rw [globPatternChars_one, isOk_map, ih, placeholdersClosed_cons (by decide)]
  | brace g ih =>
    rw [globPatternChars_brace, placeholdersClosed_brace]
    constructor
    · rintro ⟨out, h⟩
      obtain ⟨name, rest, outRest, rfl, hname, hne, hrest, -⟩ := globPatternChars_some_eq_ok.mp h
      exact ⟨name, rest, rfl, by simpa using hne, hname,
        (ih rest (by simp only [List.length_append, List.length_cons]; omega)).mp ⟨outRest, hrest⟩⟩
    · rintro ⟨name, rest, rfl, hne, hname, hpc⟩
      obtain ⟨outRest, hrest⟩ :=
        (ih rest (by simp only [List.length_append, List.length_cons]; omega)).mpr hpc
      exact ⟨_, globPatternChars_some_eq_ok.mpr ⟨name, rest, outRest, rfl, hname, by simpa using hne,
        hrest, rfl⟩⟩
  | literal c g h₁ h₂ h₃ ih =>
    rw [globPatternChars_literal h₁ h₂ h₃, isOk_map, ih, placeholdersClosed_cons h₃]

end DumpTopology
