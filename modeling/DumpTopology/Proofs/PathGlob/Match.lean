import DumpTopology.Proofs.PathGlob.Tree
import DumpTopology.Proofs.Regex.Compile
import DumpTopology.Proofs.Text.ByteOrder

/-!
# What the pattern of a glob matches

A node of a glob's tree matches from position `k` to `m` of a text exactly when the text from
`k` is one of the node's words followed by the text from `m` (`MatchesWords`). The words of a
class are its one-character lists, those of a repetition the joined lists of the body's words.
So `[^/]*` matches the runs without `/`, `.*` the runs without a line break, and `(?:[^/]*/)*`
the runs that are empty or end in `/`. Piece by piece, the anchored tree of a glob matches a
path exactly when the path is in the glob's language, with `**` standing for the runs without
a line break (`spans_anchored_iff`).
-/
namespace DumpTopology

open Regex

/-! ## Suffixes -/

section Suffixes

variable {l : List Char} {k m : Nat}

theorem eq_of_drop_eq (hk : k ≤ l.length) (hm : m ≤ l.length) (h : l.drop k = l.drop m) :
    k = m := by
  have := congrArg List.length h
  simp only [List.length_drop] at this
  omega

theorem drop_eq_cons_iff {c : Char} {p : List Char} :
    l.drop k = c :: p ↔ l[k]? = some c ∧ l.drop (k + 1) = p := by
  constructor
  · intro h
    have hc : l[k]? = some c := by
      rw [← Nat.add_zero k, ← List.getElem?_drop, h]
      rfl
    refine ⟨hc, ?_⟩
    rw [← List.drop_drop, h]
    rfl
  · rintro ⟨hc, rfl⟩
    obtain ⟨hlt, rfl⟩ := List.getElem?_eq_some_iff.mp hc
    exact List.drop_eq_getElem_cons hlt

theorem drop_add_length {q p : List Char} (h : l.drop k = q ++ p) : l.drop (k + q.length) = p := by
  rw [← List.drop_drop, h, List.drop_left]

theorem add_length_le {q p : List Char} (hk : k ≤ l.length) (h : l.drop k = q ++ p) :
    k + q.length ≤ l.length := by
  have := congrArg List.length h
  simp only [List.length_drop, List.length_append] at this
  omega

/-- Splitting the suffix at `k` into a word and a suffix is splitting it at a later position. -/
theorem exists_drop_iff (hk : k ≤ l.length) {P Q : List Char → Prop} :
    (∃ m, m ≤ l.length ∧ (∃ q, l.drop k = q ++ l.drop m ∧ P q) ∧ Q (l.drop m)) ↔
      ∃ q p, l.drop k = q ++ p ∧ P q ∧ Q p := by
  constructor
  · rintro ⟨m, -, ⟨q, hq, hP⟩, hQ⟩
    exact ⟨q, l.drop m, hq, hP, hQ⟩
  · rintro ⟨q, p, hqp, hP, hQ⟩
    -- the suffix `p` starts `q.length` characters after `k`
    have hp := drop_add_length hqp
    exact ⟨k + q.length, add_length_le hk hqp, ⟨q, by rw [hp, hqp], hP⟩, hp ▸ hQ⟩

end Suffixes

/-! ## The words of a node -/

/-- The node matches from `k` to `m` exactly when the text from `k` is a word of `L` followed
by the text from `m`. -/
def MatchesWords (text : Array Char) (n : Node) (L : List Char → Prop) : Prop :=
  ∀ k m, k ≤ text.size → (Node.Spans text n k m ↔
    m ≤ text.size ∧ ∃ q, text.toList.drop k = q ++ text.toList.drop m ∧ L q)

section Words

variable {text : Array Char}

theorem MatchesWords.congr {n : Node} {L L' : List Char → Prop} (h : MatchesWords text n L)
    (hL : ∀ q, L q ↔ L' q) : MatchesWords text n L' := by
  intro k m hk
  simp only [h k m hk, hL]

theorem matchesWords_chars (cls : CharClass) :
    MatchesWords text (.chars cls) fun q => ∃ c, q = [c] ∧ cls.contains c.toNat = true := by
  intro k m hk
  simp only [Node.Spans]
  constructor
  · rintro ⟨rfl, c, hc, hcls⟩
    have hlt : k < text.size := (Array.getElem?_eq_some_iff.mp hc).1
    refine ⟨hlt, [c], drop_eq_cons_iff.mpr ⟨by simpa using hc, rfl⟩, c, rfl, hcls⟩
  · rintro ⟨hm, _, hdrop, c, rfl, hcls⟩
    obtain ⟨hc, hnext⟩ := drop_eq_cons_iff.mp hdrop
    have hlt : k < text.size := by
      simpa using (List.getElem?_eq_some_iff.mp hc).1
    refine ⟨(eq_of_drop_eq (by simpa using Nat.succ_le_of_lt hlt) (by simpa using hm) hnext).symm,
      c, ?_, hcls⟩
    simpa using hc

/-- The words of a repetition without bounds are the joined lists of words of its body. -/
theorem rounds_iff_words {n : Node} {L : List Char → Prop} (h : MatchesWords text n L) {m : Nat} :
    ∀ k, k ≤ text.size → ((∃ r, Rounds (Node.Spans text n) r k m) ↔ m ≤ text.size ∧
      ∃ q, text.toList.drop k = q ++ text.toList.drop m ∧
        ∃ ws : List (List Char), q = ws.flatten ∧ ∀ w ∈ ws, L w) := by
  intro k hk
  constructor
  · rintro ⟨r, hr⟩
    -- one word for each round
    induction r generalizing k with
    | zero =>
      obtain rfl : k = m := hr
      exact ⟨hk, [], rfl, [], rfl, by simp⟩
    | succ r ih =>
      obtain ⟨a, ha, hr⟩ := hr
      obtain ⟨hak, u, hu, hL⟩ := (h k a hk).mp ha
      obtain ⟨hm, q, hq, ws, rfl, hws⟩ := ih a hak hr
      refine ⟨hm, u ++ ws.flatten, by rw [hu, hq, List.append_assoc], u :: ws, rfl, ?_⟩
      simpa [hL] using hws
  · rintro ⟨hm, q, hq, ws, rfl, hws⟩
    -- one round for each word
    induction ws generalizing k with
    | nil =>
      have hsize : text.toList.length = text.size := Array.length_toList
      exact ⟨0, eq_of_drop_eq (hsize ▸ hk) (hsize ▸ hm) (by simpa using hq)⟩
    | cons w ws ih =>
      simp only [List.flatten_cons, List.append_assoc] at hq
      have hnext := drop_add_length hq
      have hlen := add_length_le (by simpa using hk) hq
      simp only [Array.length_toList] at hlen
      obtain ⟨r, hr⟩ := ih (k + w.length) hlen (fun w' hw' => hws w' (.tail _ hw')) hnext
      have hw : Node.Spans text n k (k + w.length) :=
        (h k _ hk).mpr ⟨hlen, w, by rw [hnext, hq], hws w (.head _)⟩
      exact ⟨r + 1, _, hw, hr⟩

theorem MatchesWords.star {n : Node} {L : List Char → Prop} {greedy : Bool}
    (h : MatchesWords text n L) :
    MatchesWords text (.rep 0 none greedy n) fun q =>
      ∃ ws : List (List Char), q = ws.flatten ∧ ∀ w ∈ ws, L w := by
  intro k m hk
  rw [← rounds_iff_words h k hk]
  simp [Node.Spans]

theorem MatchesWords.pair {a b : Node} {La Lb : List Char → Prop} (ha : MatchesWords text a La)
    (hb : MatchesWords text b Lb) :
    MatchesWords text (.seq [a, b]) fun q => ∃ u v, q = u ++ v ∧ La u ∧ Lb v := by
  intro k m hk
  simp only [Node.Spans, Node.SeqSpans, exists_eq_right']
  constructor
  · rintro ⟨x, hx, hxm⟩
    obtain ⟨hxk, u, hu, hLa⟩ := (ha k x hk).mp hx
    obtain ⟨hm, v, hv, hLb⟩ := (hb x m hxk).mp hxm
    exact ⟨hm, u ++ v, by rw [hu, hv, List.append_assoc], u, v, rfl, hLa, hLb⟩
  · rintro ⟨hm, _, huv, u, v, rfl, hLa, hLb⟩
    rw [List.append_assoc] at huv
    have hx := drop_add_length huv
    have hlen := add_length_le (by simpa using hk) huv
    simp only [Array.length_toList] at hlen
    exact ⟨k + u.length, (ha k _ hk).mpr ⟨hlen, u, by rw [hx, huv], hLa⟩,
      (hb _ m hlen).mpr ⟨hm, v, by rw [hx], hLb⟩⟩

theorem MatchesWords.group {body : Node} {L : List Char → Prop} (h : MatchesWords text body L)
    (index : Nat) : MatchesWords text (.group index body) L := by
  intro k m hk
  simp only [Node.Spans, h k m hk]

end Words

/-! ## The words of a glob's nodes -/

section Classes

theorem CharClass.contains_single {n m : Nat} : (CharClass.single n).contains m = true ↔ m = n := by
  simp [CharClass.contains, CharClass.single]
  omega

theorem CharClass.contains_notSlash (c : Char) :
    CharClass.notSlash.contains c.toNat = true ↔ c ≠ '/' := by
  have hlt := Text.toNat_lt_of_char c
  rw [Ne, ← Char.toNat_inj]
  simp [CharClass.contains, CharClass.notSlash, maxCode]
  omega

theorem CharClass.contains_notNewline (c : Char) :
    CharClass.notNewline.contains c.toNat = true ↔ c ≠ '\n' := by
  have hlt := Text.toNat_lt_of_char c
  rw [Ne, ← Char.toNat_inj]
  simp [CharClass.contains, CharClass.notNewline, maxCode]
  omega

end Classes

/-- Joined one-character words of `P` are the lists of which every character is in `P`. -/
theorem exists_flatten_singletons_iff {P : Char → Prop} {q : List Char} :
    (∃ ws : List (List Char), q = ws.flatten ∧ ∀ w ∈ ws, ∃ c, w = [c] ∧ P c) ↔ ∀ c ∈ q, P c := by
  constructor
  · rintro ⟨ws, rfl, hws⟩
    intro c hc
    obtain ⟨w, hw, hcw⟩ := List.mem_flatten.mp hc
    obtain ⟨d, rfl, hd⟩ := hws w hw
    rw [List.mem_singleton] at hcw
    exact hcw ▸ hd
  · intro hq
    have hflat : (q.map fun c => [c]).flatten = q := by
      clear hq
      induction q with
      | nil => rfl
      | cons c q ih => simp [ih]
    refine ⟨q.map fun c => [c], hflat.symm, ?_⟩
    simp only [List.mem_map]
    rintro w ⟨c, hc, rfl⟩
    exact ⟨c, rfl, hq c hc⟩

/-- Joined words `u ++ "/"` with `u` free of `/` are the lists that are empty or end in `/`. -/
theorem exists_flatten_dirs_iff {q : List Char} :
    (∃ ws : List (List Char), q = ws.flatten ∧ ∀ w ∈ ws, ∃ u, w = u ++ ['/'] ∧ '/' ∉ u) ↔
      q = [] ∨ q.getLast? = some '/' := by
  constructor
  · rintro ⟨ws, rfl, hws⟩
    induction ws with
    | nil => exact .inl rfl
    | cons w ws ih =>
      obtain ⟨u, rfl, -⟩ := hws w (.head _)
      right
      rcases ih fun w' hw' => hws w' (.tail _ hw') with h | h <;>
        simp [List.getLast?_append, List.getLast?_cons, h]
  · -- cut after each `/`, carrying the run `u` read since the last one
    suffices key : ∀ q u : List Char, '/' ∉ u → (u ++ q = [] ∨ (u ++ q).getLast? = some '/') →
        ∃ ws : List (List Char), u ++ q = ws.flatten ∧ ∀ w ∈ ws, ∃ u, w = u ++ ['/'] ∧ '/' ∉ u from
      fun h => key q [] (by simp) h
    intro q
    induction q with
    | nil =>
      intro u hu h
      rcases h with h | h
      · exact ⟨[], by simpa using h, by simp⟩
      · exact absurd (List.mem_of_getLast? (by simpa using h)) hu
    | cons c q ih =>
      intro u hu h
      by_cases hc : c = '/'
      · subst hc
        have hq : [] ++ q = [] ∨ ([] ++ q).getLast? = some '/' := by
          rcases q with _ | ⟨d, q⟩
          · exact .inl rfl
          · right
            rcases h with h | h
            · simp at h
            · simpa [List.getLast?_append] using h
        obtain ⟨ws, hws, hall⟩ := ih [] (by simp) hq
        refine ⟨(u ++ ['/']) :: ws, by simpa using hws, ?_⟩
        simp only [List.mem_cons]
        rintro w (rfl | hw)
        · exact ⟨u, rfl, hu⟩
        · exact hall w hw
      · have hu' : '/' ∉ u ++ [c] := by simp [hu, Ne.symm hc]
        simpa using ih (u ++ [c]) hu' (by simpa using h)



section Nodes

variable {text : Array Char}

theorem matchesWords_run (cls : CharClass) (greedy : Bool) :
    MatchesWords text (.rep 0 none greedy (.chars cls)) fun q =>
      ∀ c ∈ q, cls.contains c.toNat = true :=
  (matchesWords_chars cls).star.congr fun _ => exists_flatten_singletons_iff

theorem matchesWords_segment : MatchesWords text segmentNode fun q => '/' ∉ q :=
  (matchesWords_run .notSlash true).congr fun q => by
    simp [CharClass.contains_notSlash, List.forall_mem_ne']

theorem matchesWords_deep : MatchesWords text deepNode fun q => '\n' ∉ q :=
  (matchesWords_run .notNewline true).congr fun q => by
    simp [CharClass.contains_notNewline, List.forall_mem_ne']

theorem matchesWords_placeholder (index : Nat) :
    MatchesWords text (placeholderNode index) fun q => '/' ∉ q :=
  ((matchesWords_run .notSlash false).congr fun q => by
    simp [CharClass.contains_notSlash, List.forall_mem_ne']).group index

theorem matchesWords_one : MatchesWords text (.chars .notSlash) fun q => ∃ c, q = [c] ∧ c ≠ '/' :=
  (matchesWords_chars _).congr fun q => by simp [CharClass.contains_notSlash]

theorem matchesWords_single (c : Char) : MatchesWords text (.chars (.single c.toNat)) fun q => q = [c] :=
  (matchesWords_chars _).congr fun q => by simp [CharClass.contains_single, Char.toNat_inj]

theorem matchesWords_dirs : MatchesWords text dirsNode fun q => q = [] ∨ q.getLast? = some '/' :=
  ((matchesWords_segment.pair (matchesWords_single '/')).star).congr fun q => by
    rw [← exists_flatten_dirs_iff]
    simp

end Nodes

/-! ## The language of a glob's tree -/

section Tree

variable {text : Array Char} {run : List Char → Prop}

/-- After a node with words `L`, the rest of a glob's tree matches to the end. -/
theorem seqSpans_cons_iff {n : Node} {L : List Char → Prop} {rest : List Node} {g : List Char}
    {j k : Nat} (hn : MatchesWords text n L)
    (hrest : ∀ m, m ≤ text.size →
      (Node.SeqSpans text rest m j ↔ j = text.size ∧ GlobMatches run g (text.toList.drop m)))
    (hk : k ≤ text.size) :
    Node.SeqSpans text (n :: rest) k j ↔
      j = text.size ∧ ∃ q p, text.toList.drop k = q ++ p ∧ L q ∧ GlobMatches run g p := by
  have hsize : text.toList.length = text.size := Array.length_toList
  simp only [Node.SeqSpans]
  constructor
  · rintro ⟨m, hnm, hr⟩
    obtain ⟨hm, q, hq, hL⟩ := (hn k m hk).mp hnm
    obtain ⟨hj, hg⟩ := (hrest m hm).mp hr
    exact ⟨hj, q, _, hq, hL, hg⟩
  · rintro ⟨hj, hqp⟩
    obtain ⟨m, hm, hspan, hg⟩ := (exists_drop_iff (hsize ▸ hk)).mpr hqp
    exact ⟨m, (hn k m hk).mpr ⟨hsize ▸ hm, hspan⟩, (hrest m (hsize ▸ hm)).mpr ⟨hj, hg⟩⟩

/-- The nodes of a glob, followed by the end of the text, match from `k` exactly when the
text from `k` is in the glob's language, `**` standing for the runs without a line break. -/
theorem seqSpans_globNodes {g : List Char} {items : List Node} (h : GlobNodes g items) {j : Nat} :
    ∀ k, k ≤ text.size → (Node.SeqSpans text (items ++ [.look .textEnd]) k j ↔
      j = text.size ∧ GlobMatches (fun q => '\n' ∉ q) g (text.toList.drop k)) := by
  induction h with
  | nil =>
    intro k hk
    simp only [List.nil_append, Node.SeqSpans, Node.Spans, Look.holds, globMatches_nil,
      List.drop_eq_nil_iff, Array.length_toList, beq_iff_eq]
    constructor
    · rintro ⟨m, ⟨rfl, rfl⟩, rfl⟩
      exact ⟨rfl, Nat.le_refl _⟩
    · rintro ⟨rfl, hle⟩
      exact ⟨k, ⟨rfl, by omega⟩, by omega⟩
  | dirs _ ih =>
    intro k hk
    rw [List.cons_append, seqSpans_cons_iff matchesWords_dirs ih hk, globMatches_dirs]
  | deep hg _ ih =>
    intro k hk
    rw [List.cons_append, seqSpans_cons_iff matchesWords_deep ih hk, globMatches_deep hg]
  | segment hg _ ih =>
    intro k hk
    rw [List.cons_append, seqSpans_cons_iff matchesWords_segment ih hk, globMatches_segment hg]
  | one _ ih =>
    intro k hk
    rw [List.cons_append, seqSpans_cons_iff matchesWords_one ih hk, globMatches_one]
    refine and_congr_right fun _ => ⟨?_, ?_⟩
    · rintro ⟨_, p, hqp, ⟨c, rfl, hc⟩, hg⟩
      exact ⟨c, p, hqp, hc, hg⟩
    · rintro ⟨c, p, hcp, hc, hg⟩
      exact ⟨[c], p, hcp, ⟨c, rfl, hc⟩, hg⟩
  | placeholder hne hname _ ih =>
    intro k hk
    rw [List.cons_append, seqSpans_cons_iff (matchesWords_placeholder _) ih hk,
      globMatches_placeholder hne hname]
  | literal h₁ h₂ h₃ _ ih =>
    intro k hk
    rw [List.cons_append, seqSpans_cons_iff (matchesWords_single _) ih hk,
      globMatches_literal h₁ h₂ h₃]
    simp


theorem allWellFormed_append (xs ys : List Node) :
    Node.allWellFormed (xs ++ ys) = (Node.allWellFormed xs && Node.allWellFormed ys) := by
  induction xs with
  | nil => rfl
  | cons x xs ih => simp [Node.allWellFormed, ih, Bool.and_assoc]

theorem GlobNodes.allWellFormed {g : List Char} {items : List Node} (h : GlobNodes g items) :
    Node.allWellFormed items = true := by
  induction h with
  | nil => rfl
  | literal _ _ _ _ ih => simp [Node.allWellFormed, Node.WellFormed, separated, CharClass.single, ih]
  | _ => simp_all [Node.allWellFormed, Node.WellFormed, separated, dirsNode, deepNode, segmentNode,
      placeholderNode, CharClass.notSlash, CharClass.notNewline, CharClass.single, maxCode]

/-- The anchored tree of a glob matches from `i` to `j` exactly when it spans the whole text and
the text is in the glob's language. -/
theorem spans_anchored_iff {g : List Char} {items : List Node} (h : GlobNodes g items)
    (i j : Nat) :
    Node.Spans text (.seq (.look .textStart :: (items ++ [.look .textEnd]))) i j ↔
      i = 0 ∧ j = text.size ∧ GlobMatches (fun q => '\n' ∉ q) g text.toList := by
  have hall : Node.SeqSpans text (items ++ [.look .textEnd]) 0 j ↔
      j = text.size ∧ GlobMatches (fun q => '\n' ∉ q) g text.toList := by
    simpa using seqSpans_globNodes h 0 (Nat.zero_le text.size)
  simp only [Node.Spans, Node.SeqSpans, Look.holds, beq_iff_eq]
  constructor
  · rintro ⟨_, ⟨rfl, rfl⟩, hrest⟩
    exact ⟨rfl, hall.mp hrest⟩
  · rintro ⟨rfl, hrest⟩
    exact ⟨0, ⟨rfl, rfl⟩, hall.mpr hrest⟩

end Tree

/-! ## The pattern of a glob -/

section Pattern

variable {glob : String}

theorem pathGlobPattern_isOk_iff :
    (∃ r, pathGlobPattern glob = .ok r) ↔ PlaceholdersClosed (glob.toList.dropWhile (· == '/')) := by
  rw [← globPatternChars_isOk_iff]
  unfold pathGlobPattern
  split <;> simp_all

theorem pathGlobPattern_eq_ok {r : String} (h : pathGlobPattern glob = .ok r) :
    ∃ out, globPatternChars (glob.toList.dropWhile (· == '/')) none = .ok out ∧
      r = "^" ++ String.ofList out ++ "$" := by
  unfold pathGlobPattern at h
  split at h
  · exact ⟨_, ‹_›, (Except.ok.inj h).symm⟩
  · cases h

/-- The compiled pattern of a glob matches a path exactly when the path is in the glob's
language, `**` standing for the runs without a line break. -/
theorem isMatch_globPattern_iff {r : String} {re : Pattern} (hr : pathGlobPattern glob = .ok r)
    (hre : Pattern.compile r = .ok re) (path : String) :
    re.isMatch path = true ↔
      GlobMatches (fun q => '\n' ∉ q) (glob.toList.dropWhile (· == '/')) path.toList := by
  obtain ⟨out, hout, rfl⟩ := pathGlobPattern_eq_ok hr
  -- the pattern read successfully, since it compiled
  obtain ⟨parsed, hparse⟩ : ∃ parsed, parsePattern ("^" ++ String.ofList out ++ "$") = .ok parsed := by
    unfold Pattern.compile at hre
    cases hp : parsePattern ("^" ++ String.ofList out ++ "$") with
    | error e => simp [hp, bind, Except.bind] at hre
    | ok parsed => exact ⟨parsed, rfl⟩
  obtain ⟨items, hitems, hnode⟩ := parsePattern_globPattern hout hparse
  have hwf : parsed.node.WellFormed = true := by
    simp [hnode, Node.WellFormed, Node.allWellFormed, allWellFormed_append, hitems.allWellFormed]
  rw [Pattern.isMatch_iff hre hparse hwf, hnode]
  simp only [spans_anchored_iff hitems]
  constructor
  · rintro ⟨_, _, _, _, _, hg⟩
    simpa using hg
  · intro hg
    exact ⟨0, Nat.zero_le _, _, rfl, rfl, by simpa using hg⟩

/-- A glob is written as a pattern exactly when every brace starts a placeholder with a
nonempty name of letters, digits and `_`; the pattern, when it compiles, matches exactly the
paths in the glob's language, where `**` stands for the runs without a line break. -/
theorem pathGlobPattern_faithful (glob : String) :
    ((∃ r, pathGlobPattern glob = .ok r) ↔ PlaceholdersClosed (glob.toList.dropWhile (· == '/'))) ∧
    ∀ r re, pathGlobPattern glob = .ok r → Pattern.compile r = .ok re → ∀ path : String,
      re.isMatch path = true ↔
        GlobMatches (fun q => '\n' ∉ q) (glob.toList.dropWhile (· == '/')) path.toList :=
  ⟨pathGlobPattern_isOk_iff, fun _ _ hr hre => isMatch_globPattern_iff hr hre⟩

theorem pathGlobPattern_faithful_of_sql_glob :
    ∃ re, Pattern.compile "^(?P<db>[^/]*?)/[^/]*\\.sql$" = .ok re ∧ ∀ path : String,
      re.isMatch path = true ↔ GlobMatches (fun q => '\n' ∉ q) "{db}/*.sql".toList path.toList := by
  obtain ⟨re, hre, -⟩ := exists_ok_of_toOption_map (p := fun _ => true)
    (show (Pattern.compile "^(?P<db>[^/]*?)/[^/]*\\.sql$").toOption.map (fun _ => true) = some true by
      decide +kernel)
  refine ⟨re, hre, ?_⟩
  have h := (pathGlobPattern_faithful "{db}/*.sql").2 _ re (by rfl) hre
  simpa using h

/-- `**` is written as `.*`, which stops at a line break: the glob `**` describes every path,
but its pattern misses a path with a line break. -/
theorem deepGlob_misses_line_break :
    pathGlobPattern "**" = .ok "^.*$" ∧ GlobMatches (fun _ => True) "**".toList "a\nb".toList ∧
      ∃ re, Pattern.compile "^.*$" = .ok re ∧ re.isMatch "a\nb" = false := by
  obtain ⟨re, hre, -⟩ := exists_ok_of_toOption_map (p := fun _ => true)
    (show (Pattern.compile "^.*$").toOption.map (fun _ => true) = some true by decide +kernel)
  refine ⟨rfl, ?_, re, hre, ?_⟩
  · simpa using GlobMatches.deep (p := []) (q := "a\nb".toList) (g := []) (by simp) trivial .nil
  · rw [← Bool.not_eq_true, isMatch_globPattern_iff (show pathGlobPattern "**" = .ok "^.*$" from rfl) hre]
    -- the only run `**` can take is the whole path, and it holds a line break
    simp only [show "**".toList.dropWhile (· == '/') = ['*', '*'] by rfl]
    rw [globMatches_deep (by simp)]
    rintro ⟨q, p, hqp, hq, hp⟩
    rw [globMatches_nil] at hp
    subst hp
    simp only [List.append_nil] at hqp
    exact hq (hqp ▸ by simp)

end Pattern

end DumpTopology
