/-
  Nesting — what the depth of a program is.

  1. **The search (`Search.ends`)** — the greatest level that the search has met or will meet is the same
     before and behind every round (`Search.round_goal`), and every round takes away from what there is to
     look at (`Search.round_weight`).  So the search ends with the depth, after no more rounds than there
     was to look at.

  2. **The tree (`Program.depth_eq_foldr_bodies`)** — the depth of a program is one more than the greatest
     depth of the bodies in it, and nothing if there are none.

  3. **The source (`Program.Stands.peaks`)** — a stretch of a source **peaks** by some number if the height
     rises by that number within it, and by no more.  Stretches one behind the other peak by the
     greater of their numbers, brackets around a stretch add one: so the stretch that a tree stands in
     peaks by the nesting of the tree.  Heights are a matter of brackets alone
     (`Bracket.exists_height_eq`).
-/
import TapeLang.Program.Depth
import TapeLang.Proofs.Reading

namespace TapeLang

/-! ## The search -/

namespace Search

/-- The search is over after so many rounds, with the greatest level found. -/
inductive Ends : Search → Nat → Nat → Prop where
  /-- There is no other round. -/
  | done {s : Search} (h : s.round = none) : Ends s 0 s.found
  /-- There is a round, and then so many more. -/
  | more {s s' : Search} {n found : Nat} (h : s.round = some s') (h' : Ends s' n found) :
    Ends s (n + 1) found

/-- **The search ends**, wherever it stands, after no more rounds than there are nodes and sequences to
    look at. -/
theorem ends (s : Search) : ∃ n ≤ Pending.weight s.stack, Ends s n s.goal := by
  -- on what there is to look at, of which every round takes some away
  generalize hw : Pending.weight s.stack = w
  induction w using Nat.strongRecOn generalizing s with
  | ind w ih =>
    cases hround : s.round with
    | none =>
      refine ⟨0, Nat.zero_le w, ?_⟩
      rw [goal_of_done hround]
      exact .done hround
    | some s' =>
      have hless := round_weight hround
      obtain ⟨n, hn, hends⟩ := ih (Pending.weight s'.stack) (by omega) s' rfl
      refine ⟨n + 1, by omega, .more hround ?_⟩
      rw [← round_goal hround]
      exact hends

/-- What the search ends with is its goal. -/
theorem Ends.goal_eq {s : Search} {n found : Nat} (h : Ends s n found) : found = s.goal := by
  induction h with
  | done h => exact (goal_of_done h).symm
  | more h _ ih => exact ih.trans (round_goal h)

theorem goal_start (p : Program) : (start p).goal = p.depth := (deepest_eq_goal (start p)).symm

end Search

/-! ## The tree -/

/-- The bodies of the loops that a sequence of nodes holds itself. -/
def Program.bodies : List Node → List Program
  | [] => []
  | .command .. :: rest => bodies rest
  | .loop body _ :: rest => body :: bodies rest

/-- **The depth of a program from the depths of the bodies in it.** -/
theorem Program.depth_eq_foldr_bodies (p : Program) :
    p.depth = (Program.bodies p).foldr (fun body d => max (Program.depth body + 1) d) 0 := by
  rw [depth_eq_nesting]
  induction p with
  | nil => rfl
  | cons n rest ih =>
    cases n with
    | command code position =>
      show max 0 (nesting rest) = (bodies rest).foldr _ 0
      rw [← ih, Nat.zero_max]
    | loop body position =>
      show max (nesting body + 1) (nesting rest) = max (depth body + 1) ((bodies rest).foldr _ 0)
      rw [← ih, depth_eq_nesting]

/-! ## The source -/

namespace Bracket

variable {source : List Value} {a b c j r r' : Nat}

/-- Within the stretch from offset `a` up to `b`, the height rises by `r` at some place and by no more at
    any. -/
structure Peaks (source : List Value) (a b r : Nat) : Prop where
  /-- It rises by no more. -/
  le : ∀ k, a ≤ k → k ≤ b → height source k ≤ height source a + r
  /-- It rises by so much. -/
  attained : ∃ k, a ≤ k ∧ k ≤ b ∧ height source k = height source a + r

namespace Peaks

theorem refl (source : List Value) (a : Nat) : Peaks source a a 0 := by
  constructor
  · intro k hak hka
    obtain rfl := Nat.le_antisymm hak hka
    omega
  · exact ⟨a, Nat.le_refl a, Nat.le_refl a, by omega⟩

/-- A value that is no bracket rises by nothing. -/
theorem plain (h : at? source a = none) : Peaks source a (a + 1) 0 := by
  have hlevel := height_plain h
  constructor
  · intro k hak hka
    rcases Nat.lt_or_eq_of_le hka with hlt | rfl
    · obtain rfl : a = k := by omega
      omega
    · omega
  · exact ⟨a, Nat.le_refl a, Nat.le_succ a, by omega⟩

/-- A stretch that rises behind a balanced one: of both, the greater rise counts. -/
theorem trans (hbalanced : Balanced source a b) (h : Peaks source a b r) (hle : b ≤ c)
    (h' : Peaks source b c r') : Peaks source a c (max r r') := by
  have hab := hbalanced.le
  have hlevel := hbalanced.level
  constructor
  · intro k hak hkc
    rcases Nat.le_total k b with hkb | hbk
    · have hrise := h.le k hak hkb
      omega
    · have hrise := h'.le k hbk hkc
      omega
  · rcases Nat.le_total r r' with hr | hr
    · obtain ⟨k, hbk, hkc, hk⟩ := h'.attained
      exact ⟨k, by omega, hkc, by omega⟩
    · obtain ⟨k, hak, hkb, hk⟩ := h.attained
      exact ⟨k, hak, by omega, by omega⟩

/-- Brackets around a stretch add one. -/
theorem wrap (ho : at? source a = some .opening) (hbalanced : Balanced source (a + 1) j)
    (h : Peaks source (a + 1) j r) (hc : at? source j = some .closing) :
    Peaks source a (j + 1) (r + 1) := by
  have hopen := height_opening ho
  have hclose := height_closing hc
  have hlevel := hbalanced.level
  constructor
  · intro k hak hkj
    rcases Nat.lt_or_eq_of_le hak with hlt | rfl
    · rcases Nat.lt_or_eq_of_le hkj with hlt' | rfl
      · have hrise := h.le k hlt (by omega)
        omega
      · omega
    · omega
  · obtain ⟨k, hak, hkj, hk⟩ := h.attained
    exact ⟨k, by omega, by omega, by omega⟩

end Peaks

/-! ### Brackets alone -/

/-- The brackets of a source in a row. -/
def word (source : List Value) : List Bracket := source.filterMap of?

/-- The height is counted on the brackets in a row. -/
theorem height_eq_word (source : List Value) (k : Nat) :
    height source k =
      (word (source.take k)).count .opening - (word (source.take k)).count .closing := by
  have hcount : ∀ b : Bracket, (word (source.take k)).count b = count b (source.take k) := by
    intro b
    rw [word, List.count_filterMap, count]
    refine List.countP_congr ?_
    intro c _
    cases of? c with
    | none => simp
    | some b' => simp
  rw [height, hcount, hcount]

/-- Sources with the same brackets in a row have the same heights, if at other offsets. -/
theorem exists_height_eq {source other : List Value} (h : word source = word other) (k : Nat) :
    ∃ i ≤ other.length, height other i = height source k := by
  have hprefix : word (source.take k) <+: word other := by
    rw [← h]
    exact (List.take_prefix k source).filterMap of?
  obtain ⟨l, hl, hword⟩ := List.prefix_filterMap_iff.1 hprefix
  refine ⟨l.length, hl.length_le, ?_⟩
  have htake : word (other.take l.length) = word (source.take k) := by
    rw [← List.prefix_iff_eq_take.1 hl, hword, word]
  rw [height_eq_word, height_eq_word, htake]

/-- In the end they have the same height too. -/
theorem height_length_eq {source other : List Value} (h : word source = word other) :
    height other other.length = height source source.length := by
  rw [height_eq_word, height_eq_word, List.take_length, List.take_length, h]

end Bracket

open TapeLang.Bracket (at? height Peaks)

variable {source : List Value}

mutual

/-- The stretch of a node peaks by the nesting of the node. -/
theorem Node.Stands.peaks {n : Node} {a b : Nat} (h : n.Stands source a b) :
    Peaks source a b n.nesting := by
  cases n with
  | command code position =>
    obtain ⟨hcode, hplain, -, rfl⟩ := h
    exact .plain ((Bracket.at?_eq_some hcode).trans hplain)
  | loop body position =>
    obtain ⟨ho, -, j, hbody, hc, rfl⟩ := h
    exact .wrap ho hbody.balanced hbody.peaks hc

/-- **The stretch of a sequence of nodes peaks by their nesting.** -/
theorem Program.Stands.peaks {nodes : List Node} {a b : Nat} (h : Program.Stands source nodes a b) :
    Peaks source a b (Program.nesting nodes) := by
  cases nodes with
  | nil =>
    obtain rfl : a = b := h
    exact .refl source a
  | cons n rest =>
    obtain ⟨m, hnode, hrest⟩ := h
    exact .trans hnode.balanced hnode.peaks hrest.balanced.le hrest.peaks

end

/-- The depth of a tree is the greatest height of its source. -/
theorem Program.height_depth {p : Program} (h : Program.read source = .ok p) :
    (∀ k, height source k ≤ p.depth) ∧ ∃ k ≤ source.length, height source k = p.depth := by
  have hpeaks := (stands_of_read h).peaks
  have hzero := Bracket.height_zero source
  rw [depth_eq_nesting]
  constructor
  · intro k
    rcases Nat.le_total k source.length with hk | hk
    · have hrise := hpeaks.le k (Nat.zero_le k) hk
      omega
    · have hrise := hpeaks.le source.length (Nat.zero_le _) (Nat.le_refl _)
      rw [Bracket.height_of_length_le hk]
      omega
  · obtain ⟨k, -, hk, hrise⟩ := hpeaks.attained
    exact ⟨k, hk, by omega⟩

/-- Trees of sources with the same brackets in a row are equally deep. -/
theorem Program.depth_eq_of_word {other : List Value} {p q : Program} (hp : Program.read source = .ok p)
    (hq : Program.read other = .ok q) (h : Bracket.word other = Bracket.word source) :
    q.depth = p.depth := by
  obtain ⟨hle, k, -, hk⟩ := height_depth hp
  obtain ⟨hle', k', -, hk'⟩ := height_depth hq
  obtain ⟨i, -, hi⟩ := Bracket.exists_height_eq h.symm k
  obtain ⟨i', -, hi'⟩ := Bracket.exists_height_eq h k'
  have hpq := hle' i
  have hqp := hle i'
  omega

/-! ## The theorem -/

/-- **The depth of a program is how deeply its loops are nested.**  The search for it ends, and ends with
    the depth only.  The depth is one more than the greatest depth of the bodies in the program, or zero
    if it has no loops.  In a source that closes what it opens and nothing else, it is the greatest
    height; other sources with the same brackets in a row have trees of the same depth, whatever else
    stands in them. -/
theorem Program.depth_is_nesting (p : Program) :
    (∃ n ≤ Program.size p + 1, (Search.start p).Ends n p.depth) ∧
    (∀ n found, (Search.start p).Ends n found → found = p.depth) ∧
    p.depth = (Program.bodies p).foldr (fun body d => max (Program.depth body + 1) d) 0 ∧
    ∀ source : List Value, (∀ k, 0 ≤ height source k) → height source source.length = 0 →
      ∃ q, Program.read source = .ok q ∧
        (∀ k, height source k ≤ q.depth) ∧ (∃ k ≤ source.length, height source k = q.depth) ∧
        ∀ other : List Value, Bracket.word other = Bracket.word source →
          ∃ q', Program.read other = .ok q' ∧ q'.depth = q.depth := by
  refine ⟨?_, ?_, depth_eq_foldr_bodies p, ?_⟩
  · have hends := (Search.start p).ends
    rw [Search.goal_start] at hends
    exact hends
  · intro n found hends
    rw [hends.goal_eq, Search.goal_start]
  · intro source hnonneg hzero
    obtain ⟨q, hq⟩ := exists_read hnonneg hzero
    obtain ⟨hle, hattained⟩ := height_depth hq
    refine ⟨q, hq, hle, hattained, ?_⟩
    intro other hword
    -- the other source closes what it opens as well, for it has the same heights
    have hnonneg' : ∀ k, 0 ≤ height other k := by
      intro k
      obtain ⟨i, -, hi⟩ := Bracket.exists_height_eq hword k
      rw [← hi]
      exact hnonneg i
    have hzero' : height other other.length = 0 := (Bracket.height_length_eq hword.symm).trans hzero
    obtain ⟨q', hq'⟩ := exists_read hnonneg' hzero'
    exact ⟨q', hq', depth_eq_of_word hq hq' hword⟩

/-- A loop in a loop, with a command in each: the height is 2 at most, between the inner brackets. -/
theorem Program.depth_is_nesting_at_two :
    (∀ k, 0 ≤ height [.int 91, .int 91, .int 45, .int 93, .int 120, .int 93] k) ∧
    height [.int 91, .int 91, .int 45, .int 93, .int 120, .int 93] 6 = 0 ∧
    ∃ q, Program.read [.int 91, .int 91, .int 45, .int 93, .int 120, .int 93] = .ok q ∧ q.depth = 2 := by
  have hnonneg : ∀ k, 0 ≤ height [.int 91, .int 91, .int 45, .int 93, .int 120, .int 93] k :=
    Bracket.height_nonneg (by decide)
  have hzero : height [.int 91, .int 91, .int 45, .int 93, .int 120, .int 93] 6 = 0 := by decide
  obtain ⟨q, hq, hle, ⟨k, hk, hpeak⟩, -⟩ := (depth_is_nesting []).2.2.2 _ hnonneg hzero
  have hmost : ∀ k ≤ 6, height [.int 91, .int 91, .int 45, .int 93, .int 120, .int 93] k ≤ 2 := by decide
  have htwo : height [.int 91, .int 91, .int 45, .int 93, .int 120, .int 93] 2 = 2 := by decide
  have hinner := hle 2
  have houter := hmost k hk
  exact ⟨hnonneg, hzero, q, hq, by omega⟩

end TapeLang
