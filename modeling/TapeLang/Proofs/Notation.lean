/-
  Notation — the notation of a tree identifies it.

  1. **Numerals (`Text.worth_toDigits`)** — a numeral is worth the number that it was written for, with
     zeros before it too.
  2. **Code points (`Text.readPoint_quoted`)** — the written form of one code point can be read back, whatever
     follows it.  The reader need not know the mark in use: a backslash stands before a mark, a backslash
     and the letters of an escape, and for nothing else.
  3. **Trees (`Program.same_of_literal`)** — it is known where the notation of a node ends, so a sequence is read
     node by node.  Behind a node in a tuple there is a separator or the end, and of the two commas the
     one before the end has no space behind it.
  4. **Failure (`Program.literals_of_first`)** — the first command that is no code point decides, on whatever
     level it stands.
-/
import TapeLang.Program.Display
import TapeLang.Proofs.Lines
import TapeLang.Proofs.Positions
import TapeLang.Text.Digit
import TapeLang.Text.Numeral

namespace TapeLang

/-! ## Numerals -/

namespace Text

/-- What the digits of a text are worth in a base up to sixteen. -/
def worth (base : Nat) (t : Text) : Nat := ofDigits base (t.filterMap CodePoint.hexDigit?)

theorem worth_append_digit {base : Nat} (t : Text) {d : Nat} (hd : d < 16) :
    worth base (t ++ [CodePoint.ofChar (Nat.digitChar d)]) = worth base t * base + d := by
  have hdigit : ∀ d < 16, (CodePoint.ofChar (Nat.digitChar d)).hexDigit? = some d := by decide
  rw [worth, List.filterMap_append, List.filterMap_cons_some (hdigit d hd), ofDigits, List.foldl_append]
  rfl

/-- **A numeral is worth its number.** -/
theorem worth_toDigits {base : Nat} (hbase : 1 < base) (hdigits : base ≤ 16) (n : Nat) :
    worth base ((Nat.toDigits base n).map CodePoint.ofChar) = n := by
  refine numeral_induction hbase (P := fun n ds => worth base (ds.map CodePoint.ofChar) = n) ?_ ?_ n
  · intro d hd
    exact (worth_append_digit [] (by omega)).trans (by simp [worth, ofDigits])
  · intro n d hd ih
    rw [List.map_append, List.map_singleton, worth_append_digit _ (by omega), ih]

/-- Zeros before a numeral are worth nothing. -/
theorem worth_zeros {base : Nat} (k : Nat) (t : Text) :
    worth base (List.replicate k (CodePoint.ofChar '0') ++ t) = worth base t := by
  induction k with
  | zero => rfl
  | succ k ih =>
    have hzero : (CodePoint.ofChar '0').hexDigit? = some 0 := rfl
    rw [List.replicate_succ, List.cons_append, worth, List.filterMap_cons_some hzero, ofDigits,
      List.foldl_cons, Nat.zero_mul]
    exact ih

theorem worth_hex (width n : Nat) : worth 16 (hex width n) = n := by
  rw [hex, List.map_append, List.map_replicate, worth_zeros, worth_toDigits (by decide) (by decide)]

/-- A number that fits has as many digits as it is to be filled up to. -/
theorem length_hex {width n : Nat} (hwidth : 0 < width) (h : n < Nat.pow 16 width) :
    (hex width n).length = width := by
  have hdigits := (Nat.length_toDigits_le_iff (by decide : 1 < 16) hwidth).2 h
  simp only [hex, List.length_map, List.length_append, List.length_replicate]
  omega

/-! ## Code points -/

/-- Reads the number of a code point, of so many hexadecimal digits, and gives what follows. -/
def readNumbered (width : Nat) (t : Text) : Option (CodePoint × Text) :=
  (CodePoint.ofNat? (worth 16 (t.take width))).map fun c => (c, t.drop width)

/-- Reads what a backslash starts. -/
def readEscape : Text → Option (CodePoint × Text)
  | [] => none
  | c :: rest =>
    if c.is 'n' then some ('\n', rest)
    else if c.is 'r' then some ('\r', rest)
    else if c.is 't' then some ('\t', rest)
    else if c.is 'x' then readNumbered 2 rest
    else if c.is 'u' then readNumbered 4 rest
    else if c.is 'U' then readNumbered 8 rest
    else some (c, rest)

/-- Reads a code point as it is written between marks, and gives what follows. -/
def readPoint : Text → Option (CodePoint × Text)
  | [] => none
  | c :: rest => if c.is '\x5C' then readEscape rest else some (c, rest)

theorem readNumbered_hex {width : Nat} {c : CodePoint} (hwidth : 0 < width) (h : c.val < Nat.pow 16 width)
    (rest : Text) : readNumbered width (hex width c.val ++ rest) = some (c, rest) := by
  have hlength := length_hex hwidth h
  rw [readNumbered, List.take_left' hlength, List.drop_left' hlength, worth_hex, CodePoint.ofNat?,
    dif_pos c.le_max]
  rfl

theorem readPoint_byNumber (c : CodePoint) (rest : Text) : readPoint (c.byNumber ++ rest) = some (c, rest) := by
  unfold CodePoint.byNumber
  split
  · rename_i hbyte
    exact readNumbered_hex (by decide) hbyte rest
  · split
    · rename_i hplane
      exact readNumbered_hex (by decide) hplane rest
    · have hlast : c.val < 0x100000000 := Nat.lt_of_le_of_lt c.le_max (by decide)
      exact readNumbered_hex (by decide) hlast rest

/-- A code point is read back as it was written, between marks of either kind. -/
theorem readPoint_escaped {mark : Char} (hmark : mark = '\x22' ∨ mark = '\x27') (stands : CodePoint → Bool)
    (c : CodePoint) (rest : Text) : readPoint (c.escaped mark stands ++ rest) = some (c, rest) := by
  unfold CodePoint.escaped
  split
  · rename_i h
    rcases Bool.or_eq_true_iff.1 h with h | h
    · rw [CodePoint.eq_of_is h]
      rfl
    · rw [CodePoint.eq_of_is h]
      rcases hmark with rfl | rfl <;> rfl
  · rename_i hplain
    have hslash : ¬ c.is '\x5C' = true := fun h => hplain (Bool.or_eq_true_iff.2 (.inl h))
    split
    · rename_i h
      rw [CodePoint.eq_of_is h]
      rfl
    · split
      · rename_i h
        rw [CodePoint.eq_of_is h]
        rfl
      · split
        · rename_i h
          rw [CodePoint.eq_of_is h]
          rfl
        · split
          · exact if_neg hslash
          · exact readPoint_byNumber c rest

/-- The written form of one code point, read behind its first mark. -/
theorem readPoint_quoted (c : CodePoint) (rest : Text) :
    readPoint (quoted [c] ++ rest).tail = some (c, CodePoint.ofChar (mark [c]) :: rest) := by
  have hmark : mark [c] = '\x22' ∨ mark [c] = '\x27' := by
    unfold mark
    split
    · exact .inl rfl
    · exact .inr rfl
  have htail : (quoted [c] ++ rest).tail =
      c.escaped (mark [c]) CodePoint.isPrintable ++ CodePoint.ofChar (mark [c]) :: rest := by
    simp [quoted, enclosed]
  rw [htail, readPoint_escaped hmark]

/-- **One code point is read in one way**, and so is where its written form ends. -/
theorem quoted_append_inj {c d : CodePoint} {r s : Text} (h : quoted [c] ++ r = quoted [d] ++ s) :
    c = d ∧ r = s := by
  have hread : readPoint (quoted [c] ++ r).tail = readPoint (quoted [d] ++ s).tail := by rw [h]
  rw [readPoint_quoted, readPoint_quoted] at hread
  obtain ⟨hc, hrest⟩ := Prod.mk.inj (Option.some.inj hread)
  exact ⟨hc, (List.cons.inj hrest).2⟩

/-! ## Tuples -/

/-- What stands in a tuple behind some of its elements, but for the first. -/
def others (ts : List Text) : Text := ts.flatMap ((", " : Text) ++ ·) ++ ")"

/-- What stands in a tuple behind its first element; if that is the only one, a comma marks the tuple. -/
def behindFirst : List Text → Text
  | [] => ",)"
  | t :: ts => others (t :: ts)

theorem others_cons (t : Text) (ts : List Text) : others (t :: ts) = ", " ++ t ++ others ts := by
  rw [others, others, List.flatMap_cons, List.append_assoc]

theorem tuple_cons (t : Text) (ts : List Text) : tuple (t :: ts) = "(" ++ t ++ behindFirst ts := by
  cases ts with
  | nil => rw [tuple, behindFirst]
  | cons u ts =>
    show ("(" : Text) ++ join ", " (t :: u :: ts) ++ ")" = _
    rw [join_cons, behindFirst, others, ← List.append_assoc, ← List.append_assoc]

/-- Whether there is a second element shows behind the comma, so tuples that go on alike behind the first have
    the same others. -/
theorem others_of_behindFirst {ts us : List Text} {r s : Text} (h : behindFirst ts ++ r = behindFirst us ++ s) :
    others ts ++ r = others us ++ s := by
  match ts, us with
  | [], [] => exact congrArg (others [] ++ ·) (List.append_cancel_left h)
  | t :: ts, u :: us => exact h
  | [], u :: us =>
    have hsecond : some (CodePoint.ofChar ')') = some (CodePoint.ofChar ' ') := congrArg (·[1]?) h
    exact absurd hsecond (by decide)
  | t :: ts, [] =>
    have hsecond : some (CodePoint.ofChar ' ') = some (CodePoint.ofChar ')') := congrArg (·[1]?) h
    exact absurd hsecond (by decide)

end Text

/-! ## Trees -/

/-- A command is the number of a code point. -/
def Value.IsCodePoint (v : Value) : Prop := ∃ n ∈ v.integer?, 0 ≤ n ∧ n ≤ 0x10FFFF

instance (v : Value) : Decidable v.IsCodePoint :=
  inferInstanceAs (Decidable (∃ n ∈ v.integer?, 0 ≤ n ∧ n ≤ 0x10FFFF))

/-- A command that is the number of a code point has that code point. -/
theorem codePointOf_of_isCodePoint {v : Value} (h : v.IsCodePoint) :
    ∃ c : CodePoint, codePointOf v = .ok c ∧ v.integer? = some (c.val : Int) := by
  obtain ⟨n, hn, hlow, hhigh⟩ := h
  obtain ⟨k, rfl⟩ := Int.eq_ofNat_of_zero_le hlow
  have hk : k ≤ 0x10FFFF := by omega
  have hpoint : CodePoint.ofInt? (k : Int) = some ⟨k, hk⟩ := dif_pos hk
  refine ⟨⟨k, hk⟩, ?_, hn⟩
  simp only [codePointOf, Option.mem_def.1 hn]
  rw [if_neg (by omega), hpoint]

/-- Any other integer has none: it is refused for its size from 32 bits on, and for its range below. -/
theorem codePointOf_of_not_isCodePoint {v : Value} {n : Int} (hn : v.integer? = some n) (h : ¬ v.IsCodePoint) :
    codePointOf v =
      .error (if -0x80000000 ≤ n ∧ n ≤ 0x7FFFFFFF then .codePointRange else .codePointOverflow) := by
  have hout : ¬ (0 ≤ n ∧ n ≤ 0x10FFFF) := fun hin => h ⟨n, hn, hin⟩
  simp only [codePointOf, hn]
  by_cases hsize : -0x80000000 ≤ n ∧ n ≤ 0x7FFFFFFF
  · have hpoint : CodePoint.ofInt? n = none := by
      cases n with
      | ofNat k =>
        have hk : ¬ k ≤ 0x10FFFF := fun hle => hout ⟨Int.natCast_nonneg k, Int.ofNat_le.2 hle⟩
        exact dif_neg hk
      | negSucc k => rfl
    rw [if_neg (by omega), hpoint, if_pos hsize]
  · rw [if_pos (by omega), if_neg hsize]

/-- Only an integer has a code point, and it is the number of it. -/
theorem integer?_of_codePointOf {v : Value} {c : CodePoint} (h : codePointOf v = .ok c) :
    v.integer? = some (c.val : Int) := by
  by_cases hv : v.IsCodePoint
  · obtain ⟨d, hd, hn⟩ := codePointOf_of_isCodePoint hv
    cases h.symm.trans hd
    exact hn
  · cases hn : v.integer? with
    | none =>
      simp only [codePointOf, hn] at h
      cases h
    | some n =>
      rw [codePointOf_of_not_isCodePoint hn hv] at h
      cases h

namespace Program

/-- All commands of a program are numbers of code points. -/
def OfCodePoints (p : Program) : Prop := ∀ c ∈ commands p, c.IsCodePoint

instance (p : Program) : Decidable (OfCodePoints p) :=
  inferInstanceAs (Decidable (∀ c ∈ commands p, c.IsCodePoint))

/-! ### What is written -/

theorem map_eq_ok {ε α β : Type} {x : Except ε α} {f : α → β} {b : β} (h : x.map f = .ok b) :
    ∃ a, x = .ok a ∧ b = f a := by
  cases x with
  | error e => cases h
  | ok a => exact ⟨a, rfl, (Except.ok.inj h).symm⟩

theorem literal_command_eq_ok {c : Value} {x : Option Int} {t : Text}
    (h : (Node.command c x).literal = .ok t) :
    ∃ d, codePointOf c = .ok d ∧ t = "Leaf(" ++ Text.quoted [d] ++ ")" := by
  rw [Node.literal] at h
  exact map_eq_ok h

theorem literal_loop_eq_ok {body : List Node} {x : Option Int} {t : Text}
    (h : (Node.loop body x).literal = .ok t) :
    ∃ ts, literals body = .ok ts ∧ t = "Loop" ++ Text.tuple ts := by
  rw [Node.literal] at h
  exact map_eq_ok h

theorem literals_cons_eq_ok {n : Node} {rest : List Node} {ts : List Text}
    (h : literals (n :: rest) = .ok ts) :
    ∃ t us, n.literal = .ok t ∧ literals rest = .ok us ∧ ts = t :: us := by
  rw [literals] at h
  cases hn : n.literal with
  | error f => rw [hn] at h; cases h
  | ok t =>
    cases hrest : literals rest with
    | error f => rw [hn, hrest] at h; cases h
    | ok us =>
      rw [hn, hrest] at h
      cases h
      exact ⟨t, us, rfl, rfl, rfl⟩

/-- The notation of a node begins with a letter, so it begins like nothing else in a tuple. -/
theorem literal_eq_cons {n : Node} {t : Text} (h : n.literal = .ok t) :
    ∃ rest, t = CodePoint.ofChar 'L' :: rest := by
  cases n with
  | command c x =>
    obtain ⟨d, -, rfl⟩ := literal_command_eq_ok h
    exact ⟨_, rfl⟩
  | loop body x =>
    obtain ⟨ts, -, rfl⟩ := literal_loop_eq_ok h
    exact ⟨_, rfl⟩

/-! ### What is read -/

mutual

/-- What begins with the notations of two nodes begins with that of the same node. -/
theorem same_of_literal_node {m n : Node} {t u r s : Text} (hm : m.literal = .ok t) (hn : n.literal = .ok u)
    (h : t ++ r = u ++ s) : m.same n = true ∧ r = s := by
  match m, n with
  | .command c x, .command d y =>
    obtain ⟨a, ha, rfl⟩ := literal_command_eq_ok hm
    obtain ⟨b, hb, rfl⟩ := literal_command_eq_ok hn
    have hinside : Text.quoted [a] ++ (")" ++ r) = Text.quoted [b] ++ (")" ++ s) := by
      simpa only [List.append_assoc, List.append_cancel_left_eq] using h
    obtain ⟨rfl, hrest⟩ := Text.quoted_append_inj hinside
    have hc := integer?_of_codePointOf ha
    have hd := integer?_of_codePointOf hb
    have hkey : c.sameKey d = true :=
      (Value.sameKey_iff_of_integers (hc ▸ rfl) (hd ▸ rfl)).2 (hc.trans hd.symm)
    exact ⟨hkey, List.append_cancel_left hrest⟩
  | .loop body x, .loop body' y =>
    obtain ⟨ts, hts, rfl⟩ := literal_loop_eq_ok hm
    obtain ⟨us, hus, rfl⟩ := literal_loop_eq_ok hn
    have hinside : Text.tuple ts ++ r = Text.tuple us ++ s := by
      simpa only [List.append_assoc, List.append_cancel_left_eq] using h
    exact same_of_tuple hts hus hinside
  | .command c x, .loop body' y =>
    obtain ⟨a, -, rfl⟩ := literal_command_eq_ok hm
    obtain ⟨us, -, rfl⟩ := literal_loop_eq_ok hn
    have hsecond : some (CodePoint.ofChar 'e') = some (CodePoint.ofChar 'o') := congrArg (·[1]?) h
    exact absurd hsecond (by decide)
  | .loop body x, .command d y =>
    obtain ⟨ts, -, rfl⟩ := literal_loop_eq_ok hm
    obtain ⟨b, -, rfl⟩ := literal_command_eq_ok hn
    have hsecond : some (CodePoint.ofChar 'o') = some (CodePoint.ofChar 'e') := congrArg (·[1]?) h
    exact absurd hsecond (by decide)

/-- What is read behind the first elements of two tuples. -/
theorem same_of_others {p q : List Node} {ts us : List Text} {r s : Text} (hp : literals p = .ok ts)
    (hq : literals q = .ok us) (h : Text.others ts ++ r = Text.others us ++ s) :
    Program.same p q = true ∧ r = s := by
  match p, q with
  | [], [] =>
    cases hp
    cases hq
    exact ⟨rfl, List.append_cancel_left h⟩
  | m :: ps, n :: qs =>
    obtain ⟨t, ts, hm, hps, rfl⟩ := literals_cons_eq_ok hp
    obtain ⟨u, us, hn, hqs, rfl⟩ := literals_cons_eq_ok hq
    have hinside : t ++ (Text.others ts ++ r) = u ++ (Text.others us ++ s) := by
      simpa only [Text.others_cons, List.append_assoc, List.append_cancel_left_eq] using h
    obtain ⟨hnode, hrest⟩ := same_of_literal_node hm hn hinside
    obtain ⟨hsame, hrest⟩ := same_of_others hps hqs hrest
    exact ⟨Bool.and_eq_true_iff.2 ⟨hnode, hsame⟩, hrest⟩
  | [], n :: qs =>
    cases hp
    obtain ⟨u, us, -, -, rfl⟩ := literals_cons_eq_ok hq
    have hfirst : some (CodePoint.ofChar ')') = some (CodePoint.ofChar ',') := congrArg List.head? h
    exact absurd hfirst (by decide)
  | m :: ps, [] =>
    cases hq
    obtain ⟨t, ts, -, -, rfl⟩ := literals_cons_eq_ok hp
    have hfirst : some (CodePoint.ofChar ',') = some (CodePoint.ofChar ')') := congrArg List.head? h
    exact absurd hfirst (by decide)

/-- **Tuples are read in one way.**  What begins with the tuples of two programs begins with that of the same
    program. -/
theorem same_of_tuple {p q : List Node} {ts us : List Text} {r s : Text} (hp : literals p = .ok ts)
    (hq : literals q = .ok us) (h : Text.tuple ts ++ r = Text.tuple us ++ s) :
    Program.same p q = true ∧ r = s := by
  match p, q with
  | [], [] =>
    cases hp
    cases hq
    exact ⟨rfl, List.append_cancel_left h⟩
  | m :: ps, n :: qs =>
    obtain ⟨t, ts, hm, hps, rfl⟩ := literals_cons_eq_ok hp
    obtain ⟨u, us, hn, hqs, rfl⟩ := literals_cons_eq_ok hq
    have hinside : t ++ (Text.behindFirst ts ++ r) = u ++ (Text.behindFirst us ++ s) := by
      simpa only [Text.tuple_cons, List.append_assoc, List.append_cancel_left_eq] using h
    obtain ⟨hnode, hrest⟩ := same_of_literal_node hm hn hinside
    obtain ⟨hsame, hrest⟩ := same_of_others hps hqs (Text.others_of_behindFirst hrest)
    exact ⟨Bool.and_eq_true_iff.2 ⟨hnode, hsame⟩, hrest⟩
  | [], n :: qs =>
    cases hp
    obtain ⟨u, us, hn, -, rfl⟩ := literals_cons_eq_ok hq
    obtain ⟨u, rfl⟩ := literal_eq_cons hn
    rw [Text.tuple_cons] at h
    have hsecond : some (CodePoint.ofChar ')') = some (CodePoint.ofChar 'L') := congrArg (·[1]?) h
    exact absurd hsecond (by decide)
  | m :: ps, [] =>
    cases hq
    obtain ⟨t, ts, hm, -, rfl⟩ := literals_cons_eq_ok hp
    obtain ⟨t, rfl⟩ := literal_eq_cons hm
    rw [Text.tuple_cons] at h
    have hsecond : some (CodePoint.ofChar 'L') = some (CodePoint.ofChar ')') := congrArg (·[1]?) h
    exact absurd hsecond (by decide)

end

/-- Programs with one notation are the same. -/
theorem same_of_literal {p q : Program} {t : Text} (hp : p.literal = .ok t) (hq : q.literal = .ok t) :
    Program.same p q = true := by
  obtain ⟨ts, hts, hp⟩ := map_eq_ok hp
  obtain ⟨us, hus, hq⟩ := map_eq_ok hq
  exact (same_of_tuple hts hus (congrArg (· ++ []) (hp.symm.trans hq))).1

/-! ### Which programs have a notation -/

mutual

/-- A node of code points has a notation. -/
theorem exists_literal_node {n : Node} (h : ∀ c ∈ n.commands, c.IsCodePoint) : ∃ t, n.literal = .ok t := by
  match n with
  | .command c x =>
    obtain ⟨d, hd, -⟩ := codePointOf_of_isCodePoint (h c List.mem_cons_self)
    refine ⟨"Leaf(" ++ Text.quoted [d] ++ ")", ?_⟩
    rw [Node.literal, hd]
    rfl
  | .loop body x =>
    obtain ⟨ts, hts⟩ := exists_literals_of h
    refine ⟨"Loop" ++ Text.tuple ts, ?_⟩
    rw [Node.literal, hts]
    rfl

/-- The nodes of a program of code points have notations. -/
theorem exists_literals_of {p : List Node} (h : OfCodePoints p) : ∃ ts, literals p = .ok ts := by
  match p with
  | [] => exact ⟨[], rfl⟩
  | n :: rest =>
    obtain ⟨t, ht⟩ := exists_literal_node fun c hc => h c (List.mem_append_left _ hc)
    obtain ⟨ts, hts⟩ := exists_literals_of (p := rest) fun c hc => h c (List.mem_append_right _ hc)
    refine ⟨t :: ts, ?_⟩
    rw [literals, ht, hts]
    rfl

end

theorem exists_literal {p : Program} (h : p.OfCodePoints) : ∃ t, p.literal = .ok t := by
  obtain ⟨ts, hts⟩ := exists_literals_of h
  exact ⟨Text.tuple ts, congrArg (Except.map Text.tuple) hts⟩

mutual

/-- Nodes of code points that are the same have one notation. -/
theorem literal_node_of_same {m n : Node} (hm : ∀ c ∈ m.commands, c.IsCodePoint)
    (hn : ∀ c ∈ n.commands, c.IsCodePoint) (h : m.same n = true) : m.literal = n.literal := by
  match m, n with
  | .command c x, .command d y =>
    obtain ⟨a, ha, hc⟩ := codePointOf_of_isCodePoint (hm c List.mem_cons_self)
    obtain ⟨b, hb, hd⟩ := codePointOf_of_isCodePoint (hn d List.mem_cons_self)
    have hinteger : c.integer? = d.integer? :=
      (Value.sameKey_iff_of_integers (hc ▸ rfl) (hd ▸ rfl)).1 h
    rw [hc, hd] at hinteger
    obtain rfl : a = b := CodePoint.eq_of_val (Int.ofNat.inj (Option.some.inj hinteger))
    rw [Node.literal, Node.literal, ha, hb]
  | .loop body x, .loop body' y => rw [Node.literal, Node.literal, literals_of_same hm hn h]
  | .command c x, .loop body' y => cases h
  | .loop body x, .command d y => cases h

/-- The nodes of programs of code points that are the same have the same notations. -/
theorem literals_of_same {p q : List Node} (hp : OfCodePoints p) (hq : OfCodePoints q)
    (h : Program.same p q = true) : literals p = literals q := by
  match p, q with
  | [], [] => rfl
  | m :: ps, n :: qs =>
    obtain ⟨hnode, hrest⟩ := Bool.and_eq_true_iff.1 h
    rw [literals, literals,
      literal_node_of_same (fun c hc => hp c (List.mem_append_left _ hc))
        (fun c hc => hq c (List.mem_append_left _ hc)) hnode,
      literals_of_same (fun c hc => hp c (List.mem_append_right _ hc))
        (fun c hc => hq c (List.mem_append_right _ hc)) hrest]
  | [], n :: qs => cases h
  | m :: ps, [] => cases h

end

/-! ### Failure -/

/-- The first command of some that is no code point. -/
def firstUnwritable? (cs : List Value) : Option Value := cs.find? fun c => ¬ c.IsCodePoint

theorem firstUnwritable?_eq_none_iff {cs : List Value} :
    firstUnwritable? cs = none ↔ ∀ c ∈ cs, c.IsCodePoint := by
  simp [firstUnwritable?]

theorem firstUnwritable?_eq_some {cs : List Value} {c : Value} (h : firstUnwritable? cs = some c) :
    c ∈ cs ∧ ¬ c.IsCodePoint := by
  have hbad := List.find?_some (p := fun c : Value => ¬ c.IsCodePoint) h
  exact ⟨List.mem_of_find?_eq_some h, of_decide_eq_true hbad⟩

theorem firstUnwritable?_append (cs ds : List Value) :
    firstUnwritable? (cs ++ ds) = (firstUnwritable? cs).or (firstUnwritable? ds) := List.find?_append

mutual

theorem literal_node_of_first {n : Node} {c : Value} {f : Failure} (hf : codePointOf c = .error f)
    (h : firstUnwritable? n.commands = some c) : n.literal = .error f := by
  match n with
  | .command d x =>
    obtain rfl := List.mem_singleton.1 (firstUnwritable?_eq_some h).1
    rw [Node.literal, hf]
    rfl
  | .loop body x =>
    rw [Node.literal, literals_of_first hf h]
    rfl

/-- **The first command that is no code point decides.** -/
theorem literals_of_first {p : List Node} {c : Value} {f : Failure} (hf : codePointOf c = .error f)
    (h : firstUnwritable? (commands p) = some c) : literals p = .error f := by
  match p with
  | [] => cases h
  | n :: rest =>
    rw [commands, firstUnwritable?_append] at h
    cases hn : firstUnwritable? n.commands with
    | some d =>
      rw [hn] at h
      cases h
      rw [literals, literal_node_of_first hf hn]
      rfl
    | none =>
      rw [hn] at h
      obtain ⟨t, ht⟩ := exists_literal_node (firstUnwritable?_eq_none_iff.1 hn)
      rw [literals, ht, literals_of_first hf h]
      rfl

end

/-! ## The theorem -/

/-- **The notation of a tree identifies it.**  Programs of code points have notations, and two of them have the
    same one exactly if they are the same up to positions.  A program of integers fails to have one, for
    its value or its size, exactly if one of its commands, on whatever level, is no code point.  The first
    such command in reading order decides: it is out of range if 32 bits hold it, and otherwise too large. -/
theorem notation_identifies {p : Program} (hp : p.OfIntegers) :
    (p.OfCodePoints → ∀ q : Program, q.OfCodePoints →
      ∃ t u, p.literal = .ok t ∧ q.literal = .ok u ∧ (t = u ↔ Program.same p q = true)) ∧
    ((∃ f, p.literal = .error f ∧ (f.category = .value ∨ f.category = .overflow)) ↔
      ∃ c ∈ commands p, ¬ c.IsCodePoint) ∧
    (∀ c n, firstUnwritable? (commands p) = some c → c.integer? = some n →
      p.literal = .error (if -0x80000000 ≤ n ∧ n ≤ 0x7FFFFFFF then .codePointRange else .codePointOverflow)) := by
  have hfirst : ∀ c n, firstUnwritable? (commands p) = some c → c.integer? = some n →
      p.literal = .error (if -0x80000000 ≤ n ∧ n ≤ 0x7FFFFFFF then .codePointRange else .codePointOverflow) := by
    intro c n hc hn
    have hbad := codePointOf_of_not_isCodePoint hn (firstUnwritable?_eq_some hc).2
    rw [literal, literals_of_first hbad hc]
    rfl
  refine ⟨?_, ?_, hfirst⟩
  · intro hcodes q hcodes'
    obtain ⟨t, ht⟩ := exists_literal hcodes
    obtain ⟨u, hu⟩ := exists_literal hcodes'
    refine ⟨t, u, ht, hu, ?_, ?_⟩
    · rintro rfl
      exact same_of_literal ht hu
    · intro hsame
      rw [literal, literals_of_same hcodes hcodes' hsame] at ht
      exact Except.ok.inj (ht.symm.trans hu)
  · constructor
    · rintro ⟨f, hf, -⟩
      refine Classical.byContradiction fun hnone => ?_
      have hcodes : p.OfCodePoints := fun c hc => Classical.byContradiction fun hbad => hnone ⟨c, hc, hbad⟩
      obtain ⟨t, ht⟩ := exists_literal hcodes
      cases ht.symm.trans hf
    · rintro ⟨c, hc, hbad⟩
      cases hlook : firstUnwritable? (commands p) with
      | none => exact absurd (firstUnwritable?_eq_none_iff.1 hlook c hc) hbad
      | some d =>
        obtain ⟨n, hn⟩ := Option.isSome_iff_exists.1 (hp d (firstUnwritable?_eq_some hlook).1)
        refine ⟨_, hfirst d n hlook hn, ?_⟩
        split
        · exact .inl rfl
        · exact .inr rfl

/-- A quotation mark in a loop, from a source and put together by hand. -/
theorem notation_identifies_mark_in_loop :
    OfIntegers [.loop [.command (.int 39) (some 1)] (some 0)] ∧
    OfCodePoints [.loop [.command (.int 39) (some 1)] (some 0)] ∧
    OfCodePoints [.loop [.command (.int 39) none] none] ∧
    ∃ t u, literal [.loop [.command (.int 39) (some 1)] (some 0)] = .ok t ∧
      literal [.loop [.command (.int 39) none] none] = .ok u ∧ t = u := by
  have hp : OfIntegers [.loop [.command (.int 39) (some 1)] (some 0)] := by decide
  have hcodes : OfCodePoints [.loop [.command (.int 39) (some 1)] (some 0)] := by decide
  have hcodes' : OfCodePoints [.loop [.command (.int 39) none] none] := by decide
  obtain ⟨t, u, ht, hu, heq⟩ := (notation_identifies hp).1 hcodes _ hcodes'
  exact ⟨hp, hcodes, hcodes', t, u, ht, hu, heq.2 rfl⟩

/-- A command of more than 32 bits is no code point, but that is no failure of value. -/
theorem overflow_of_large_command :
    ¬ ((∃ f, literal [.command (.int 0x10000000000000000) (some 0)] = .error f ∧ f.category = .value) ↔
      ∃ c ∈ commands [.command (.int 0x10000000000000000) (some 0)], ¬ c.IsCodePoint) := by
  intro h
  have hlarge : ∃ c ∈ commands [.command (.int 0x10000000000000000) (some 0)], ¬ c.IsCodePoint :=
    ⟨.int 0x10000000000000000, List.mem_singleton.2 rfl, by decide⟩
  obtain ⟨f, hf, hvalue⟩ := h.2 hlarge
  cases hf
  cases hvalue

example : (literal [.loop [] none, .loop [.command (.int 39) none, .command (.int 10) none] none]).toOption =
    some "(Loop(), Loop(Leaf(\"'\"), Leaf('\\n')))" := by decide +kernel

end Program

end TapeLang
