import Mathlib.Data.List.Nodup

/-!
# Checked computations

A computation that can fail is described by an `Outcome`: the faults it fails with, what
its results satisfy, and when it succeeds. Outcomes compose along `>>=`, so a sequence of
phases is described by the outcomes of its phases.

A fold is checked when each step, from a state that stands for the elements so far, either
fails with a fault of the element or reaches a state for one element more. The outcome of a
fold of checked steps (`Checked.foldlM`) is the fault of the first bad element, the state for
the whole list, and success exactly when every element is good where it stands.
-/
namespace DumpTopology

@[simp] theorem except_ok_bind {ε α β : Type} (a : α) (f : α → Except ε β) :
    ((Except.ok a : Except ε α) >>= f) = f a := rfl

@[simp] theorem except_error_bind {ε α β : Type} (e : ε) (f : α → Except ε β) :
    ((Except.error e : Except ε α) >>= f) = .error e := rfl

theorem except_bind_eq_ok {ε α β : Type} {x : Except ε α} {f : α → Except ε β} {b : β} :
    (x >>= f) = .ok b ↔ ∃ a, x = .ok a ∧ f a = .ok b := by
  cases x <;> simp

theorem except_pure_eq_ok {ε α : Type} {a b : α} : (pure a : Except ε α) = .ok b ↔ a = b :=
  ⟨Except.ok.inj, congrArg _⟩

theorem except_map_eq_ok {ε α β : Type} {g : α → β} {x : Except ε α} {b : β} :
    g <$> x = .ok b ↔ ∃ a, x = .ok a ∧ g a = b := by
  cases x with
  | error e =>
    constructor
    · intro h
      cases h
    · rintro ⟨_, ha, -⟩
      cases ha
  | ok a =>
    constructor
    · intro h
      exact ⟨a, rfl, Except.ok.inj h⟩
    · rintro ⟨_, ha, rfl⟩
      cases ha
      rfl

theorem exists_ok_of_toOption_map {ε α : Type} {x : Except ε α} {p : α → Bool}
    (h : x.toOption.map p = some true) : ∃ a, x = .ok a ∧ p a = true := by
  cases x <;> simp_all [Except.toOption]

/-- Each result of a successful `mapM` is the result of an element. -/
theorem exists_of_mapM_eq_ok {ε α β : Type} {f : α → Except ε β} {l : List α} {rs : List β}
    (h : l.mapM f = .ok rs) : ∀ r ∈ rs, ∃ x ∈ l, f x = .ok r := by
  induction l generalizing rs with
  | nil =>
    rw [List.mapM_nil, except_pure_eq_ok] at h
    subst h
    intro r hr
    cases hr
  | cons x l ih =>
    rw [List.mapM_cons, except_bind_eq_ok] at h
    obtain ⟨r₀, hx, h⟩ := h
    rw [except_bind_eq_ok] at h
    obtain ⟨rs', hl, h⟩ := h
    rw [except_pure_eq_ok] at h
    subst h
    intro r hr
    rcases List.mem_cons.mp hr with rfl | hr
    · exact ⟨x, List.mem_cons_self, hx⟩
    · obtain ⟨y, hy, hfy⟩ := ih hl r hr
      exact ⟨y, List.mem_cons_of_mem _ hy, hfy⟩

/-- A `mapM` succeeds exactly when every element succeeds, each with its result. -/
theorem mapM_eq_ok_iff_forall₂ {ε α β : Type} {f : α → Except ε β} {l : List α}
    {rs : List β} : l.mapM f = .ok rs ↔ List.Forall₂ (fun a b => f a = .ok b) l rs := by
  induction l generalizing rs with
  | nil =>
    rw [List.mapM_nil, except_pure_eq_ok, List.forall₂_nil_left_iff, eq_comm]
  | cons x l ih =>
    rw [List.mapM_cons, except_bind_eq_ok]
    constructor
    · rintro ⟨b, hx, h⟩
      obtain ⟨bs, hl, h⟩ := except_bind_eq_ok.mp h
      rw [except_pure_eq_ok] at h
      subst h
      exact List.Forall₂.cons hx (ih.mp hl)
    · intro h
      cases h with
      | cons hx hl => exact ⟨_, hx, except_bind_eq_ok.mpr ⟨_, ih.mpr hl, rfl⟩⟩

theorem mapM_congr_mem {ε α β : Type} {f g : α → Except ε β} {l : List α}
    (h : ∀ a ∈ l, f a = g a) : l.mapM f = l.mapM g := by
  induction l with
  | nil => rfl
  | cons a l ih =>
    simp only [List.mapM_cons, h a List.mem_cons_self,
      ih fun b hb => h b (List.mem_cons_of_mem _ hb)]

/-- Some list relates to `l` element by element exactly when each element relates to
something. -/
theorem exists_forall₂_iff {α β : Type} {R : α → β → Prop} {l : List α} :
    (∃ l', List.Forall₂ R l l') ↔ ∀ a ∈ l, ∃ b, R a b := by
  induction l with
  | nil =>
    constructor
    · intro _ a ha
      cases ha
    · intro _
      exact ⟨[], .nil⟩
  | cons a l ih =>
    constructor
    · rintro ⟨_, hl⟩
      cases hl with
      | cons hab hrest =>
        intro x hx
        rcases List.mem_cons.mp hx with rfl | hx
        · exact ⟨_, hab⟩
        · exact ih.mp ⟨_, hrest⟩ x hx
    · intro h
      obtain ⟨b, hb⟩ := h a List.mem_cons_self
      obtain ⟨l', hl'⟩ := ih.mpr fun x hx => h x (List.mem_cons_of_mem _ hx)
      exact ⟨b :: l', .cons hb hl'⟩

section Outcome

variable {ε σ τ : Type}

/-- A computation fails exactly with the faults `F`, its results satisfy `R`, and it
succeeds exactly when `P` holds. -/
structure Outcome (x : Except ε σ) (F : ε → Prop) (R : σ → Prop) (P : Prop) : Prop where
  error : ∀ e, x = .error e ↔ F e
  ok : ∀ s, x = .ok s → R s
  succeeds : (∃ s, x = .ok s) ↔ P

variable {x : Except ε σ} {F : ε → Prop} {R : σ → Prop} {P : Prop}

theorem Outcome.not_of_error (hx : Outcome x F R P) {e : ε} (he : x = .error e) : ¬ P :=
  fun hp => by
    obtain ⟨s, hs⟩ := hx.succeeds.mpr hp
    rw [he] at hs
    cases hs

theorem Outcome.not_fault_of_ok (hx : Outcome x F R P) {s : σ} (hs : x = .ok s) (e : ε) :
    ¬ F e := fun he => by
  have h := (hx.error e).mpr he
  rw [hs] at h
  cases h

/-- The faults, results and condition of an outcome may be restated by equivalent ones. -/
theorem Outcome.imp {F' : ε → Prop} {R' : σ → Prop} {P' : Prop} (hx : Outcome x F R P)
    (hF : ∀ e, F e ↔ F' e) (hR : ∀ s, R s → R' s) (hP : P ↔ P') : Outcome x F' R' P' where
  error e := (hx.error e).trans (hF e)
  ok s hs := hR s (hx.ok s hs)
  succeeds := hx.succeeds.trans hP

/-- A result is only reached when the condition holds. -/
theorem Outcome.ok_and (hx : Outcome x F R P) : Outcome x F (fun s => R s ∧ P) P where
  error := hx.error
  ok s hs := ⟨hx.ok s hs, hx.succeeds.mp ⟨s, hs⟩⟩
  succeeds := hx.succeeds

/-- A computation whose faults are all one fault fails with it exactly when the condition
fails. -/
theorem Outcome.only {e₀ : ε} (hx : Outcome x F R P) (hF : ∀ e, F e → e = e₀) :
    Outcome x (fun e => e = e₀ ∧ ¬ P) R P where
  error e := by
    constructor
    · intro he
      exact ⟨hF e ((hx.error e).mp he), hx.not_of_error he⟩
    · rintro ⟨rfl, hP⟩
      rcases hxe : x with e₁ | s
      · rw [hF e₁ ((hx.error e₁).mp hxe)]
      · exact absurd (hx.succeeds.mp ⟨s, hxe⟩) hP
  ok := hx.ok
  succeeds := hx.succeeds

/-- Running a second phase on the result of a first: it fails with a fault of the first
phase, or, once the first succeeds, with one of the second. -/
theorem Outcome.bind {f : σ → Except ε τ} {G : ε → Prop} {S : τ → Prop} {Q : Prop}
    (hx : Outcome x F R P) (hf : ∀ s, R s → Outcome (f s) G S Q) :
    Outcome (x >>= f) (fun e => F e ∨ P ∧ G e) S (P ∧ Q) := by
  rcases hxe : x with e₁ | s
  · have hF := (hx.error e₁).mp hxe
    have hP := hx.not_of_error hxe
    refine ⟨fun e => ?_, fun t h => (nomatch h), ?_⟩
    · simp only [except_error_bind, Except.error.injEq, hP, false_and, or_false]
      constructor
      · rintro rfl
        exact hF
      · intro he
        have h := (hx.error e).mpr he
        rw [hxe] at h
        exact Except.error.inj h
    · simp only [except_error_bind, hP, false_and, iff_false]
      exact fun ⟨_, h⟩ => (nomatch h)
  · have hP := hx.succeeds.mp ⟨s, hxe⟩
    have hs := hf s (hx.ok s hxe)
    simp only [except_ok_bind]
    refine ⟨fun e => ?_, hs.ok, ?_⟩
    · simp only [hs.error, hx.not_fault_of_ok hxe, hP, true_and, false_or]
    · simp only [hs.succeeds, hP, true_and]

/-- Returning a function of the result keeps the faults and the condition. -/
theorem Outcome.map {g : σ → τ} (hx : Outcome x F R P) :
    Outcome (x >>= fun s => pure (g s)) F (fun t => ∃ s, R s ∧ t = g s) P := by
  rcases hxe : x with e₁ | s
  · refine ⟨fun e => ?_, fun t h => (nomatch h), ?_⟩
    · rw [← hx.error e, hxe, except_error_bind]
      simp only [Except.error.injEq]
    · rw [← hx.succeeds, hxe]
      exact ⟨fun ⟨_, h⟩ => (nomatch h), fun ⟨_, h⟩ => (nomatch h)⟩
  · refine ⟨fun e => ?_, fun t h => ⟨s, hx.ok s hxe, ?_⟩, ?_⟩
    · rw [← hx.error e, hxe]
      exact ⟨nofun, nofun⟩
    · cases h
      rfl
    · rw [← hx.succeeds, hxe]
      exact ⟨fun _ => ⟨s, rfl⟩, fun _ => ⟨g s, rfl⟩⟩

/-- A failure with one fault. -/
theorem outcome_error (e : ε) :
    Outcome (Except.error e : Except ε σ) (· = e) (fun _ => False) False where
  error _ := ⟨fun h => (Except.error.inj h).symm, fun h => h ▸ rfl⟩
  ok _ h := nomatch h
  succeeds := ⟨fun ⟨_, h⟩ => (nomatch h), False.elim⟩

end Outcome

section CheckedFold

variable {σ α ε : Type} (Good : List α → α → Prop) (fault : List α → α → ε)

/-- Every element is good at the prefix before it. -/
def AllGood : List α → List α → Prop
  | _, [] => True
  | p, x :: xs => Good p x ∧ AllGood (p ++ [x]) xs

/-- The fault of the first element that is not good at the prefix before it. -/
inductive FirstBad : List α → List α → ε → Prop
  | here {p : List α} {x : α} {xs : List α} : ¬ Good p x → FirstBad p (x :: xs) (fault p x)
  | there {p : List α} {x : α} {xs : List α} {e : ε} :
      Good p x → FirstBad (p ++ [x]) xs e → FirstBad p (x :: xs) e

/-- A step is checked when, from a state that stands for a prefix, it fails exactly at an
element that is not good there, with that element's fault, and otherwise reaches a state
that stands for the longer prefix. -/
structure Checked (step : σ → α → Except ε σ) (R : List α → σ → Prop) : Prop where
  ok : ∀ {p s x}, R p s → Good p x → ∃ s', step s x = .ok s' ∧ R (p ++ [x]) s'
  error : ∀ {p s x}, R p s → ¬ Good p x → step s x = .error (fault p x)

variable {Good fault}

@[simp] theorem allGood_nil (p : List α) : AllGood Good p [] := trivial

@[simp] theorem allGood_cons (p : List α) (x : α) (xs : List α) :
    AllGood Good p (x :: xs) ↔ Good p x ∧ AllGood Good (p ++ [x]) xs := Iff.rfl

theorem not_firstBad_nil (p : List α) (e : ε) : ¬ FirstBad Good fault p [] e := nofun

theorem firstBad_cons_of_good {p : List α} {x : α} {xs : List α} {e : ε} (hx : Good p x) :
    FirstBad Good fault p (x :: xs) e ↔ FirstBad Good fault (p ++ [x]) xs e := by
  constructor
  · rintro (⟨hbad⟩ | ⟨-, hrest⟩)
    · exact absurd hx hbad
    · exact hrest
  · exact FirstBad.there hx

theorem firstBad_cons_of_bad {p : List α} {x : α} {xs : List α} {e : ε} (hx : ¬ Good p x) :
    FirstBad Good fault p (x :: xs) e ↔ e = fault p x := by
  constructor
  · rintro (⟨-⟩ | ⟨hgood, -⟩)
    · rfl
    · exact absurd hgood hx
  · rintro rfl
    exact FirstBad.here hx

/-- A fold of checked steps fails exactly with the fault of the first bad element, stands
for the whole list when it succeeds, and succeeds exactly when every element is good. -/
theorem Checked.foldlM {step : σ → α → Except ε σ} {R : List α → σ → Prop}
    (hc : Checked Good fault step R) (xs : List α) :
    ∀ {p : List α} {s : σ}, R p s →
      Outcome (xs.foldlM step s) (FirstBad Good fault p xs) (R (p ++ xs)) (AllGood Good p xs) := by
  -- induction on the list, the processed prefix growing by the element just stepped over
  induction xs with
  | nil =>
    intro p s hs
    refine ⟨fun e => ?_, fun s' hs' => ?_, ?_⟩
    · simp only [List.foldlM_nil]
      exact ⟨nofun, nofun⟩
    · cases hs'
      simpa using hs
    · simp only [List.foldlM_nil, allGood_nil, iff_true]
      exact ⟨s, rfl⟩
  | cons x xs ih =>
    intro p s hs
    by_cases hx : Good p x
    · obtain ⟨s', hstep, hs'⟩ := hc.ok hs hx
      obtain ⟨herr, hok, hall⟩ := ih hs'
      simp only [List.foldlM_cons, hstep, except_ok_bind, allGood_cons, hx, true_and]
      refine ⟨fun e => ?_, fun s'' h => ?_, hall⟩
      · rw [firstBad_cons_of_good hx]
        exact herr e
      · simpa using hok s'' h
    · have hstep := hc.error hs hx
      simp only [List.foldlM_cons, hstep, except_error_bind, allGood_cons, hx, false_and]
      refine ⟨fun e => ?_, fun s'' h => (nomatch h), ⟨fun ⟨_, h⟩ => (nomatch h), False.elim⟩⟩
      rw [firstBad_cons_of_bad hx]
      exact ⟨fun h => (Except.error.inj h).symm, fun h => h ▸ rfl⟩

/-- A step of a checked fold that succeeds reaches a state for the longer prefix. -/
theorem Checked.ok_of_step {step : σ → α → Except ε σ} {R : List α → σ → Prop}
    (hc : Checked Good fault step R) {p : List α} {s s' : σ} {x : α} (hs : R p s)
    (h : step s x = .ok s') : R (p ++ [x]) s' := by
  by_cases hx : Good p x
  · obtain ⟨s'', hstep, hs''⟩ := hc.ok hs hx
    rw [h] at hstep
    cases hstep
    exact hs''
  · rw [hc.error hs hx] at h
    cases h

/-- What each successful step keeps for the prefix it extends, a successful fold keeps for
the whole list. -/
theorem foldlM_ok_induction {step : σ → α → Except ε σ} {I : List α → σ → Prop}
    {Q : α → Prop} (hstep : ∀ {p s x s'}, Q x → I p s → step s x = .ok s' → I (p ++ [x]) s') :
    ∀ (xs : List α) {p : List α} {s s' : σ}, (∀ x ∈ xs, Q x) → I p s →
      xs.foldlM step s = .ok s' → I (p ++ xs) s' := by
  intro xs
  induction xs with
  | nil =>
    intro p s s' _ hs h
    cases h
    simpa using hs
  | cons x xs ih =>
    intro p s s' hq hs h
    rw [List.foldlM_cons] at h
    rcases hx : step s x with e | s₁
    · rw [hx, except_error_bind] at h
      cases h
    · rw [hx, except_ok_bind] at h
      have := ih (fun y hy => hq y (List.mem_cons_of_mem x hy))
        (hstep (hq x List.mem_cons_self) hs hx) h
      simpa using this

/-- An invariant of the prefix folded so far that every successful step keeps holds after a
successful fold of the whole list. -/
theorem foldlM_ok_invariant {step : σ → α → Except ε σ} {I : List α → σ → Prop}
    (hstep : ∀ {p s x s'}, I p s → step s x = .ok s' → I (p ++ [x]) s') (xs : List α)
    {s s' : σ} (hs : I [] s) (h : xs.foldlM step s = .ok s') : I xs s' := by
  simpa using foldlM_ok_induction (Q := fun _ => True) (fun _ hi hx => hstep hi hx) xs
    (fun _ _ => trivial) hs h

theorem allGood_of_forall {p xs : List α} (h : ∀ p x, Good p x) : AllGood Good p xs := by
  induction xs generalizing p with
  | nil => trivial
  | cons x xs ih => exact ⟨h p x, ih⟩

/-- A condition on the element alone can be taken out of the goodness of every element. -/
theorem allGood_and_iff {P : α → Prop} {p xs : List α} :
    AllGood (fun p x => P x ∧ Good p x) p xs ↔ (∀ x ∈ xs, P x) ∧ AllGood Good p xs := by
  induction xs generalizing p with
  | nil => simp
  | cons x xs ih =>
    simp only [allGood_cons, ih, List.mem_cons, forall_eq_or_imp]
    constructor
    · rintro ⟨⟨hp, hg⟩, hall, hrest⟩
      exact ⟨⟨hp, hall⟩, hg, hrest⟩
    · rintro ⟨⟨hp, hall⟩, hg, hrest⟩
      exact ⟨⟨hp, hg⟩, hall, hrest⟩

/-- The first bad element is found by cutting the list before it: every element before the
cut is good, and the element at the cut is not. -/
theorem firstBad_iff {p xs : List α} {e : ε} :
    FirstBad Good fault p xs e ↔ ∃ pre x post, xs = pre ++ x :: post ∧
      AllGood Good p pre ∧ ¬ Good (p ++ pre) x ∧ e = fault (p ++ pre) x := by
  induction xs generalizing p with
  | nil =>
    constructor
    · intro h
      exact absurd h (not_firstBad_nil p e)
    · rintro ⟨pre, x, post, hsplit, -⟩
      simp at hsplit
  | cons y ys ih =>
    by_cases hy : Good p y
    · rw [firstBad_cons_of_good hy, ih]
      constructor
      · rintro ⟨pre, x, post, rfl, hpre, hx, rfl⟩
        exact ⟨y :: pre, x, post, rfl, ⟨hy, hpre⟩, by simpa using hx, by simp⟩
      · rintro ⟨pre, x, post, hsplit, hpre, hx, rfl⟩
        cases pre with
        | nil =>
          obtain ⟨rfl, -⟩ := List.cons.inj hsplit
          exact absurd hy (by simpa using hx)
        | cons z pre =>
          obtain ⟨rfl, rfl⟩ := List.cons.inj hsplit
          exact ⟨pre, x, post, rfl, hpre.2, by simpa using hx, by simp⟩
    · rw [firstBad_cons_of_bad hy]
      constructor
      · rintro rfl
        exact ⟨[], y, ys, rfl, trivial, by simpa using hy, by simp⟩
      · rintro ⟨pre, x, post, hsplit, hpre, hx, rfl⟩
        cases pre with
        | nil =>
          obtain ⟨rfl, -⟩ := List.cons.inj hsplit
          simp
        | cons z pre =>
          obtain ⟨rfl, -⟩ := List.cons.inj hsplit
          exact absurd hpre.1 hy

/-- An element whose key is already there adds no key. -/
theorem mem_map_append_singleton_iff {β : Type} {key : α → β} {pre : List α} {x : α}
    (hx : key x ∈ pre.map key) (y : β) : y ∈ (pre ++ [x]).map key ↔ y ∈ pre.map key := by
  simp only [List.map_append, List.map_cons, List.map_nil, List.mem_append, List.mem_singleton]
  exact ⟨fun h => h.elim id fun he => he ▸ hx, .inl⟩

/-- With a prefix whose keys are distinct, every element has a key new at its place exactly
when all keys are distinct. -/
theorem allGood_key_not_mem_iff {β : Type} {key : α → β} {p xs : List α}
    (hp : (p.map key).Nodup) :
    AllGood (fun pre x => key x ∉ pre.map key) p xs ↔ ((p ++ xs).map key).Nodup := by
  induction xs generalizing p with
  | nil => simpa using hp
  | cons x xs ih =>
    rw [allGood_cons]
    by_cases hx : key x ∈ p.map key
    · simp only [hx, not_true_eq_false, false_and, false_iff]
      intro hnd
      rw [List.map_append, List.map_cons, List.nodup_append] at hnd
      exact hnd.2.2 _ hx _ List.mem_cons_self rfl
    · have hp' : ((p ++ [x]).map key).Nodup := by
        rw [List.map_append, List.nodup_append]
        simp only [List.map_cons, List.map_nil, List.nodup_cons, List.not_mem_nil,
          not_false_eq_true, List.nodup_nil, and_self, List.mem_cons, or_false, true_and]
        exact ⟨hp, fun a ha b hb => hb ▸ fun h => hx (h ▸ ha)⟩
      rw [ih hp']
      simp [hx]

/-- Every key is new at its place, unless repeats are tolerated, exactly when repeats are
tolerated or the keys are distinct. -/
theorem allGood_unique_iff {β : Type} (tol : Bool) {key : α → β} {xs : List α} :
    AllGood (fun pre x => tol = true ∨ key x ∉ pre.map key) [] xs ↔
      tol = true ∨ (xs.map key).Nodup := by
  cases tol
  · simp only [Bool.false_eq_true, false_or]
    have h : AllGood (fun pre x => key x ∉ pre.map key) [] xs ↔ (([] ++ xs).map key).Nodup :=
      allGood_key_not_mem_iff List.nodup_nil
    simpa using h
  · simp only [true_or, iff_true]
    exact allGood_of_forall fun _ _ => trivial

end CheckedFold

end DumpTopology
