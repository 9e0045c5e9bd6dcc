import DumpTopology.Proofs.PathGlob.Language
import DumpTopology.Proofs.Regex.Read

/-!
# The tree of a glob's pattern

The pattern of a glob reads back as one node per piece of the glob, between `^` and `$`:
`**/` as `(?:[^/]*/)*`, `**` as `.*`, `*` as `[^/]*`, `?` as `[^/]`, a placeholder as a
capture group around `[^/]*?`, and every other character as the class of that character
alone. `GlobNodes` relates a glob to those nodes.

Each piece is read by a few turns of the reading loop (`readsThrough_dirs`, ...), which
append its node to the current sequence and change nothing else but the group count
(`Appended`). `readsThrough_glob` chains them over the whole glob, and
`parsePattern_globPattern` reads the anchored pattern.
-/
namespace DumpTopology

open Regex

/-- The node of `**/`: runs of whole directories. -/
def dirsNode : Node :=
  .rep 0 none true (.seq [.rep 0 none true (.chars .notSlash), .chars (.single 47)])

/-- The node of `**`: a run of characters without a line break. -/
def deepNode : Node := .rep 0 none true (.chars .notNewline)

/-- The node of `*`: a run without `/`. -/
def segmentNode : Node := .rep 0 none true (.chars .notSlash)

/-- The node of a placeholder: capture group `k` around a lazy run without `/`. -/
def placeholderNode (k : Nat) : Node := .group k (.rep 0 none false (.chars .notSlash))

/-- The nodes that the pieces of a glob read as, in order. -/
inductive GlobNodes : List Char → List Node → Prop
  | nil : GlobNodes [] []
  | dirs {g items} : GlobNodes g items → GlobNodes ('*' :: '*' :: '/' :: g) (dirsNode :: items)
  | deep {g items} : g.head? ≠ some '/' → GlobNodes g items →
      GlobNodes ('*' :: '*' :: g) (deepNode :: items)
  | segment {g items} : g.head? ≠ some '*' → GlobNodes g items →
      GlobNodes ('*' :: g) (segmentNode :: items)
  | one {g items} : GlobNodes g items → GlobNodes ('?' :: g) (.chars .notSlash :: items)
  | placeholder {name g items k} : name ≠ [] → (∀ c ∈ name, isPlaceholderChar c = true) →
      GlobNodes g items → GlobNodes ('{' :: (name ++ '}' :: g)) (placeholderNode k :: items)
  | literal {c g items} : c ≠ '*' → c ≠ '?' → c ≠ '{' → GlobNodes g items →
      GlobNodes (c :: g) (.chars (.single c.toNat) :: items)

/-- `st'` is `st` with `items` appended to its current sequence; the flags, the finished
alternatives and the open groups are those of `st`. -/
structure Appended (st : Regex.Reading) (items : List Node) (st' : Regex.Reading) : Prop where
  flags : st'.flags = st.flags
  pieces : st'.pieces = items.reverse.map .node ++ st.pieces
  alts : st'.alts = st.alts
  stack : st'.stack = st.stack

theorem Appended.push (st : Regex.Reading) (n : Node) : Appended st [n] (st.push n) :=
  ⟨rfl, rfl, rfl, rfl⟩

theorem Appended.trans {st st' st'' : Regex.Reading} {xs ys : List Node} (h₁ : Appended st xs st')
    (h₂ : Appended st' ys st'') : Appended st (xs ++ ys) st'' :=
  ⟨h₂.flags.trans h₁.flags, by simp [h₂.pieces, h₁.pieces], h₂.alts.trans h₁.alts,
    h₂.stack.trans h₁.stack⟩

/-! ## Reading one piece -/

section Pieces

variable {p : Source} {i : Nat} {st : Regex.Reading} {rest : List Char}

theorem readsThrough_dirs (hf : st.flags = {})
    (hdrop : p.toList.drop i = "(?:[^/]*/)*".toList ++ rest) (hrest : rest.head? ≠ some '?') :
    ReadsThrough p i st (i + 11) (st.push dirsNode) := by
  have hat := getElem?_of_drop hdrop
  have hnext : p[i + 10 + 1]? ≠ some '?' := by
    simpa [Nat.add_assoc, hat, List.head?_eq_getElem?] using hrest
  refine .trans (.of_step fun _ => readFrom_openPlain (by exact hf) (by simpa using hat 0)
    (by simp [hat]) (by simp [hat])) ?_
  refine .trans (.of_step fun _ => readFrom_notSlash (by exact hf) (by simp [hat])
    (by simp [Nat.add_assoc, hat]) (by simp [Nat.add_assoc, hat]) (by simp [Nat.add_assoc, hat])) ?_
  refine .trans (.of_step fun _ => readFrom_star (by exact hf) (by simp [Nat.add_assoc, hat])
    (by simp [Nat.add_assoc, hat]) rfl) ?_
  refine .trans (.of_step fun _ => readFrom_literal (c := '/') (by exact hf)
    (by simp [Nat.add_assoc, hat]) (by decide)) ?_
  refine .trans (.of_step fun _ => readFrom_closePlain (by exact hf)
    (by simp [Nat.add_assoc, hat]) rfl rfl) ?_
  refine .trans (.of_step fun _ => readFrom_star (by exact hf) (by simp [Nat.add_assoc, hat])
    hnext rfl) ?_
  exact .refl

theorem readsThrough_deep (hf : st.flags = {}) (hdrop : p.toList.drop i = ".*".toList ++ rest)
    (hrest : rest.head? ≠ some '?') : ReadsThrough p i st (i + 2) (st.push deepNode) := by
  have hat := getElem?_of_drop hdrop
  have hnext : p[i + 1 + 1]? ≠ some '?' := by
    simpa [Nat.add_assoc, hat, List.head?_eq_getElem?] using hrest
  refine .trans (.of_step fun _ => readFrom_dot (by exact hf) (by simpa using hat 0)) ?_
  refine .trans (.of_step fun _ => readFrom_star (by exact hf) (by simp [hat]) hnext rfl) ?_
  exact .refl

theorem readsThrough_segment (hf : st.flags = {})
    (hdrop : p.toList.drop i = "[^/]*".toList ++ rest) (hrest : rest.head? ≠ some '?') :
    ReadsThrough p i st (i + 5) (st.push segmentNode) := by
  have hat := getElem?_of_drop hdrop
  have hnext : p[i + 4 + 1]? ≠ some '?' := by
    simpa [Nat.add_assoc, hat, List.head?_eq_getElem?] using hrest
  refine .trans (.of_step fun _ => readFrom_notSlash (by exact hf) (by simpa using hat 0)
    (by simp [hat]) (by simp [hat]) (by simp [hat])) ?_
  refine .trans (.of_step fun _ => readFrom_star (by exact hf) (by simp [hat]) hnext rfl) ?_
  exact .refl

theorem readsThrough_one (hf : st.flags = {}) (hdrop : p.toList.drop i = "[^/]".toList ++ rest) :
    ReadsThrough p i st (i + 4) (st.push (.chars .notSlash)) := by
  have hat := getElem?_of_drop hdrop
  exact .of_step fun _ => readFrom_notSlash hf (by simpa using hat 0) (by simp [hat])
    (by simp [hat]) (by simp [hat])

theorem escapeText_singleton (c : Char) :
    (escapeText (String.singleton c)).toList = if isMeta c then ['\\', c] else [c] := by
  by_cases h : isMeta c <;> simp [escapeText, h]

theorem readsThrough_literal {c : Char} (hf : st.flags = {})
    (hdrop : p.toList.drop i = (escapeText (String.singleton c)).toList ++ rest) :
    ReadsThrough p i st (i + (escapeText (String.singleton c)).toList.length)
      (st.push (.chars (.single c.toNat))) := by
  have hat := getElem?_of_drop hdrop
  rw [escapeText_singleton] at hat ⊢
  cases hm : isMeta c with
  | true =>
    simp only [hm, if_true] at hat ⊢
    exact .of_step fun _ => readFrom_escape hf (by simpa using hat 0) (by simp [hat]) hm
  | false =>
    simp only [hm, Bool.false_eq_true, if_false] at hat ⊢
    exact .of_step fun _ => readFrom_literal hf (by simpa using hat 0) hm

/-- A placeholder opens a capture group under its name, with the next index. -/
theorem readsThrough_placeholder {name : List Char} (hf : st.flags = {})
    (hname : ∀ c ∈ name, isPlaceholderChar c = true)
    (hdrop : p.toList.drop i = "(?P<".toList ++ name ++ ">[^/]*?)".toList ++ rest) :
    ReadsThrough p i st (i + ("(?P<".toList ++ name ++ ">[^/]*?)".toList).length)
      { st with
        pieces := .node (placeholderNode (st.groups + 1)) :: st.pieces, groups := st.groups + 1,
        names := (String.ofList name, st.groups + 1) :: st.names } := by
  have hgt : '>' ∉ name := fun h => absurd (hname '>' h) (by decide)
  have hopen : p.toList.drop i = "(?P<".toList ++ name ++ '>' :: ("[^/]*?)".toList ++ rest) := by
    simpa using hdrop
  have hbody : p.toList.drop (i + 5 + name.length) = "[^/]*?)".toList ++ rest := by
    have hsplit : p.toList.drop i = ("(?P<".toList ++ name ++ ['>']) ++ ("[^/]*?)".toList ++ rest) := by
      simpa using hdrop
    have h := drop_of_drop_append hsplit
    rwa [show i + ("(?P<".toList ++ name ++ ['>']).length = i + 5 + name.length by simp; omega] at h
  rw [show i + ("(?P<".toList ++ name ++ ">[^/]*?)".toList).length = i + 5 + name.length + 7 by
    simp; omega]
  refine .trans (readsThrough_openNamed hf hopen hgt) ?_
  -- the group's body `[^/]*?` and its closing parenthesis
  generalize i + 5 + name.length = j at hbody ⊢
  have hat := getElem?_of_drop hbody
  refine .trans (.of_step fun _ => readFrom_notSlash (by exact hf) (by simpa using hat 0)
    (by simp [hat]) (by simp [hat]) (by simp [hat])) ?_
  refine .trans (.of_step fun _ => readFrom_lazyStar (by exact hf) (by simp [hat])
    (by simp [Nat.add_assoc, hat]) rfl) ?_
  refine .trans (.of_step fun _ => readFrom_closeCapture (by exact hf)
    (by simp [Nat.add_assoc, hat]) rfl rfl) ?_
  exact .refl

end Pieces

/-! ## Reading the whole glob -/

/-- No pattern text of a glob starts with `?`, so none makes a repetition before it lazy. -/
theorem head?_ne_of_globPatternChars {l out : List Char} (h : globPatternChars l none = .ok out) :
    out.head? ≠ some '?' := by
  induction l using globInduction generalizing out with
  | nil =>
    simp only [globPatternChars, Except.ok.injEq] at h
    simp [← h]
  | dirs g _ =>
    obtain ⟨_, _, rfl⟩ := except_map_eq_ok.mp (globPatternChars_dirs ▸ h)
    simp
  | deep g hg _ =>
    obtain ⟨_, _, rfl⟩ := except_map_eq_ok.mp (globPatternChars_deep hg ▸ h)
    simp
  | segment g hg _ =>
    obtain ⟨_, _, rfl⟩ := except_map_eq_ok.mp (globPatternChars_segment hg ▸ h)
    simp
  | one g _ =>
    obtain ⟨_, _, rfl⟩ := except_map_eq_ok.mp (globPatternChars_one ▸ h)
    simp
  | brace g _ =>
    obtain ⟨_, _, _, -, -, -, -, rfl⟩ := globPatternChars_some_eq_ok.mp (globPatternChars_brace ▸ h)
    simp
  | literal c g h₁ h₂ h₃ _ =>
    obtain ⟨_, _, rfl⟩ := except_map_eq_ok.mp (globPatternChars_literal h₁ h₂ h₃ ▸ h)
    rw [escapeText_singleton]
    cases isMeta c <;> simp [h₂]

theorem head?_append_ne {l out rest : List Char} (h : globPatternChars l none = .ok out)
    (hrest : rest.head? ≠ some '?') : (out ++ rest).head? ≠ some '?' := by
  have hout := head?_ne_of_globPatternChars h
  cases out with
  | nil => simpa using hrest
  | cons c out => simpa using hout

section Glob

variable {p : Source}

/-- A piece read by the turns `hchunk` into the node `n`, then the rest of the glob. -/
theorem readsThrough_cons {i k : Nat} {st st₁ : Regex.Reading} {chunk outRest : List Char} {n : Node}
    {g l : List Char} (hk : chunk.length = k) (hchunk : ReadsThrough p i st (i + k) st₁)
    (happ : Appended st [n] st₁) (hnodes : ∀ {items}, GlobNodes g items → GlobNodes l (n :: items))
    (hrest : ∃ items st', GlobNodes g items ∧ Appended st₁ items st' ∧
      ReadsThrough p (i + chunk.length) st₁ (i + chunk.length + outRest.length) st') :
    ∃ items st', GlobNodes l items ∧ Appended st items st' ∧
      ReadsThrough p i st (i + (chunk ++ outRest).length) st' := by
  subst hk
  obtain ⟨items, st', hitems, happ', hreads⟩ := hrest
  refine ⟨n :: items, st', hnodes hitems, happ.trans happ', ?_⟩
  rw [List.length_append, ← Nat.add_assoc]
  exact hchunk.trans hreads

/-- The pattern text of a glob, followed by text that does not start with `?`, reads as the
glob's nodes appended to the current sequence. -/
theorem readsThrough_glob {l : List Char} : ∀ {out : List Char}, globPatternChars l none = .ok out →
    ∀ {i : Nat} {st : Regex.Reading} {rest : List Char}, st.flags = {} →
      p.toList.drop i = out ++ rest → rest.head? ≠ some '?' →
      ∃ items st', GlobNodes l items ∧ Appended st items st' ∧
        ReadsThrough p i st (i + out.length) st' := by
  induction l using globInduction with
  | nil =>
    intro out h i st rest _ _ _
    simp only [globPatternChars, Except.ok.injEq] at h
    subst h
    exact ⟨[], st, .nil, ⟨rfl, by simp, rfl, rfl⟩, by simpa using ReadsThrough.refl⟩
  | dirs g ih =>
    intro out h i st rest hf hdrop hrest
    obtain ⟨outRest, hg, rfl⟩ := except_map_eq_ok.mp (globPatternChars_dirs ▸ h)
    rw [List.append_assoc] at hdrop
    exact readsThrough_cons (by simp) (readsThrough_dirs hf hdrop (head?_append_ne hg hrest))
      (.push st _) .dirs (ih hg (by exact hf) (drop_of_drop_append hdrop) hrest)
  | deep g hg' ih =>
    intro out h i st rest hf hdrop hrest
    obtain ⟨outRest, hg, rfl⟩ := except_map_eq_ok.mp (globPatternChars_deep hg' ▸ h)
    rw [List.append_assoc] at hdrop
    exact readsThrough_cons (by simp) (readsThrough_deep hf hdrop (head?_append_ne hg hrest))
      (.push st _) (.deep hg') (ih hg (by exact hf) (drop_of_drop_append hdrop) hrest)
  | segment g hg' ih =>
    intro out h i st rest hf hdrop hrest
    obtain ⟨outRest, hg, rfl⟩ := except_map_eq_ok.mp (globPatternChars_segment hg' ▸ h)
    rw [List.append_assoc] at hdrop
    exact readsThrough_cons (by simp) (readsThrough_segment hf hdrop (head?_append_ne hg hrest))
      (.push st _) (.segment hg') (ih hg (by exact hf) (drop_of_drop_append hdrop) hrest)
  | one g ih =>
    intro out h i st rest hf hdrop hrest
    obtain ⟨outRest, hg, rfl⟩ := except_map_eq_ok.mp (globPatternChars_one ▸ h)
    rw [List.append_assoc] at hdrop
    exact readsThrough_cons (by simp) (readsThrough_one hf hdrop) (.push st _) .one
      (ih hg (by exact hf) (drop_of_drop_append hdrop) hrest)
  | brace g ih =>
    intro out h i st rest hf hdrop hrest
    obtain ⟨name, g', outRest, rfl, hname, hne, hg, rfl⟩ :=
      globPatternChars_some_eq_ok.mp (globPatternChars_brace ▸ h)
    simp only [List.reverse_nil, List.nil_append] at hne hdrop ⊢
    rw [List.append_assoc] at hdrop
    have hshorter : g'.length ≤ (name ++ '}' :: g').length := by simp; omega
    exact readsThrough_cons rfl (readsThrough_placeholder hf hname hdrop) ⟨rfl, rfl, rfl, rfl⟩
      (.placeholder hne hname) (ih g' hshorter hg (by exact hf) (drop_of_drop_append hdrop) hrest)
  | literal c g h₁ h₂ h₃ ih =>
    intro out h i st rest hf hdrop hrest
    obtain ⟨outRest, hg, rfl⟩ := except_map_eq_ok.mp (globPatternChars_literal h₁ h₂ h₃ ▸ h)
    rw [List.append_assoc] at hdrop
    exact readsThrough_cons rfl (readsThrough_literal hf hdrop) (.push st _)
      (.literal h₁ h₂ h₃) (ih hg (by exact hf) (drop_of_drop_append hdrop) hrest)

theorem branchNode_map_node (ns : List Node) :
    branchNode (ns.reverse.map .node) = Node.sequence ns := by
  simp [branchNode, List.map_reverse, List.filterMap_map]

theorem sequence_anchored (items : List Node) :
    Node.sequence (.look .textStart :: (items ++ [.look .textEnd])) =
      .seq (.look .textStart :: (items ++ [.look .textEnd])) := by
  cases items <;> rfl

/-- The anchored pattern of a glob reads as the glob's nodes between `^` and `$`. -/
theorem parsePattern_globPattern {l out : List Char} {parsed : Parsed}
    (h : globPatternChars l none = .ok out)
    (hparse : parsePattern ("^" ++ String.ofList out ++ "$") = .ok parsed) :
    ∃ items, GlobNodes l items ∧
      parsed.node = .seq (.look .textStart :: (items ++ [.look .textEnd])) := by
  unfold parsePattern at hparse
  generalize hp : ("^" ++ String.ofList out ++ "$").toList.toArray = p at hparse
  have hlist : p.toList = '^' :: (out ++ ['$']) := by simp [← hp]
  have hcaret : ReadsThrough p 0 ⟨{}, [], [], [], 0, []⟩ 1
      (Regex.Reading.push ⟨{}, [], [], [], 0, []⟩ (.look .textStart)) :=
    .of_step fun _ => readFrom_caret rfl (by simp [← Array.getElem?_toList, hlist])
  have hdrop : p.toList.drop 1 = out ++ ['$'] := by simp [hlist]
  have hend : p[1 + out.length]? = some '$' := by
    rw [← Array.getElem?_toList, hlist, Nat.add_comm]
    simp
  have hnone : p[1 + out.length + 1]? = none := by
    rw [← Array.getElem?_toList, hlist, List.getElem?_eq_none_iff]
    simp only [List.length_cons, List.length_append, List.length_nil]
    omega
  obtain ⟨items, st, hitems, happ, hglob⟩ := readsThrough_glob h
    (show (Regex.Reading.push ⟨{}, [], [], [], 0, []⟩ (.look .textStart)).flags = {} from rfl) hdrop
    (by simp)
  have hflags : st.flags = {} := happ.flags
  have hdollar : ReadsThrough p (1 + out.length) st (1 + out.length + 1) (st.push (.look .textEnd)) :=
    .of_step fun _ => readFrom_dollar hflags hend
  obtain ⟨fuel, hread⟩ := (hcaret.trans (hglob.trans hdollar)) _ _ hparse
  cases fuel with
  | zero => simp [readFrom_zero, refuse] at hread
  | succ fuel =>
    rw [readFrom_end (by exact hflags) hnone (by exact happ.stack)] at hread
    refine ⟨items, hitems, ?_⟩
    -- the tree is the body of the one branch read
    have hpieces : (st.push (.look .textEnd)).pieces =
        ((.look .textStart :: (items ++ [.look .textEnd])).reverse.map .node) := by
      simp [Regex.Reading.push, happ.pieces]
    have halts : (st.push (.look .textEnd)).alts = [] := happ.alts
    rw [← Except.ok.inj hread]
    show bodyNode _ _ = _
    rw [bodyNode, hpieces, halts, branchNode_map_node, sequence_anchored]
    rfl

end Glob

end DumpTopology
