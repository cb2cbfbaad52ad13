/-
  Reading — what reading a source gives, in terms of its brackets.

  1. **Where a tree stands** — `Program.Stands` says that a sequence of nodes is what a stretch of a
     source says: every command stands at its own position in the source, and every loop has its brackets
     there.  Such a stretch is balanced, and every bracket opened in it is paired.

  2. **The crux (`Program.ReadUpTo`)** — the invariant of the reader.  The level under construction stands
     behind the innermost unclosed bracket, what is before that bracket on its level stands behind the
     next one, and so on outwards.  A command or a closed loop is one more node of a level, an opening
     bracket starts an empty one, and a closing bracket finds in the level above it just the stretch
     that it closes.

  3. **The verdict** — `Program.read_reads` is all there is to know of the reader: it gives a tree that
     stands in the whole source, or a closing bracket behind a balanced stretch, or what is left
     unclosed at the end.  Which of the three it is, and where, is a matter of heights.
-/
import TapeLang.Program.Source
import TapeLang.Proofs.Brackets

namespace TapeLang

open TapeLang.Bracket (at? height Balanced Paired Unpaired)

/-! ## Where a tree stands -/

mutual

/-- A node is what a source says from offset `a` up to `b`. -/
def Node.Stands (source : List Value) : Node → Nat → Nat → Prop
  | .command code position, a, b =>
    source[a]? = some code ∧ Bracket.of? code = none ∧ position = some (a : Int) ∧ b = a + 1
  | .loop body position, a, b =>
    at? source a = some .opening ∧ position = some (a : Int) ∧
      ∃ j, Program.Stands source body (a + 1) j ∧ at? source j = some .closing ∧ b = j + 1

/-- A sequence of nodes is what a source says from offset `a` up to `b`. -/
def Program.Stands (source : List Value) : List Node → Nat → Nat → Prop
  | [], a, b => a = b
  | n :: rest, a, b => ∃ m, n.Stands source a m ∧ Program.Stands source rest m b

end

variable {source : List Value}

mutual

/-- A node takes up a balanced stretch. -/
theorem Node.Stands.balanced {n : Node} {a b : Nat} (h : n.Stands source a b) :
    Balanced source a b := by
  cases n with
  | command code position =>
    obtain ⟨hcode, hplain, -, rfl⟩ := h
    exact .plain ((Bracket.at?_eq_some hcode).trans hplain)
  | loop body position =>
    obtain ⟨ho, -, j, hbody, hc, rfl⟩ := h
    exact .wrap ho hbody.balanced hc

/-- A sequence of nodes takes up a balanced stretch. -/
theorem Program.Stands.balanced {nodes : List Node} {a b : Nat}
    (h : Program.Stands source nodes a b) : Balanced source a b := by
  cases nodes with
  | nil =>
    obtain rfl : a = b := h
    exact .refl source a
  | cons n rest =>
    obtain ⟨m, hnode, hrest⟩ := h
    exact hnode.balanced.trans hrest.balanced

end

mutual

/-- What is opened within a node is closed within it. -/
theorem Node.Stands.paired {n : Node} {a b i : Nat} (h : n.Stands source a b) (hai : a ≤ i)
    (hib : i < b) (hi : at? source i = some .opening) : ∃ j, Paired source i j := by
  cases n with
  | command code position =>
    obtain ⟨hcode, hplain, -, rfl⟩ := h
    obtain rfl : a = i := by omega
    rw [Bracket.at?_eq_some hcode, hplain] at hi
    cases hi
  | loop body position =>
    obtain ⟨ho, -, j, hbody, hc, rfl⟩ := h
    rcases Nat.lt_or_eq_of_le hai with hlt | rfl
    · rcases Nat.lt_or_eq_of_le (Nat.le_of_lt_succ hib) with hij | rfl
      · exact hbody.paired hlt hij hi
      · rw [hc] at hi
        cases hi
    · exact ⟨j, hbody.balanced.paired ho hc⟩

/-- What is opened within a sequence of nodes is closed within it. -/
theorem Program.Stands.paired {nodes : List Node} {a b i : Nat} (h : Program.Stands source nodes a b)
    (hai : a ≤ i) (hib : i < b) (hi : at? source i = some .opening) : ∃ j, Paired source i j := by
  cases nodes with
  | nil =>
    obtain rfl : a = b := h
    omega
  | cons n rest =>
    obtain ⟨m, hnode, hrest⟩ := h
    rcases Nat.lt_or_ge i m with him | hmi
    · exact hnode.paired hai him hi
    · exact hrest.paired hmi hib hi

end

/-- One more node behind a sequence. -/
theorem Program.Stands.snoc {nodes : List Node} {n : Node} {a m b : Nat}
    (h : Program.Stands source nodes a m) (hn : n.Stands source m b) :
    Program.Stands source (nodes ++ [n]) a b := by
  induction nodes generalizing a with
  | nil =>
    obtain rfl : a = m := h
    exact ⟨b, hn, rfl⟩
  | cons n' rest ih =>
    obtain ⟨k, hnode, hrest⟩ := h
    exact ⟨k, hnode, ih hrest⟩

/-- A node takes up some of its source. -/
theorem Node.Stands.lt {n : Node} {a b : Nat} (h : n.Stands source a b) : a < b := by
  cases n with
  | command code position =>
    obtain ⟨-, -, -, rfl⟩ := h
    exact Nat.lt_succ_self a
  | loop body position =>
    obtain ⟨-, -, j, hbody, -, rfl⟩ := h
    have hle := hbody.balanced.le
    omega

mutual

/-- The positions in a node are offsets of its source, up to where it ends. -/
theorem Node.Stands.offset {n : Node} {a b : Nat} (h : n.Stands source a b) {x : Option Int}
    (hx : x ∈ n.positions) : ∃ i < b, x = some (i : Int) := by
  match n with
  | .command code position =>
    obtain ⟨-, -, hposition, rfl⟩ := h
    exact ⟨a, Nat.lt_succ_self a, (List.mem_singleton.1 hx).trans hposition⟩
  | .loop body position =>
    have hlt := h.lt
    obtain ⟨-, hposition, j, hbody, -, rfl⟩ := h
    rcases List.mem_cons.1 hx with rfl | hx
    · exact ⟨a, hlt, hposition⟩
    · obtain ⟨i, hi, heq⟩ := hbody.offset hx
      exact ⟨i, Nat.lt_succ_of_lt hi, heq⟩

/-- The same of a sequence of nodes. -/
theorem Program.Stands.offset {nodes : List Node} {a b : Nat} (h : Program.Stands source nodes a b)
    {x : Option Int} (hx : x ∈ Program.positions nodes) : ∃ i < b, x = some (i : Int) := by
  match nodes with
  | [] => cases hx
  | n :: rest =>
    obtain ⟨m, hnode, hrest⟩ := h
    rcases List.mem_append.1 hx with hx | hx
    · obtain ⟨i, hi, heq⟩ := hnode.offset hx
      exact ⟨i, Nat.lt_of_lt_of_le hi hrest.balanced.le, heq⟩
    · exact hrest.offset hx

end

mutual

/-- Where a node begins stands no other. -/
theorem Node.Stands.unique {m n : Node} {a b b' : Nat} (h : m.Stands source a b)
    (h' : n.Stands source a b') : m = n ∧ b = b' := by
  match m, n with
  | .command code position, .command code' position' =>
    obtain ⟨hcode, -, rfl, rfl⟩ := h
    obtain ⟨hcode', -, rfl, rfl⟩ := h'
    obtain rfl := Option.some.inj (hcode.symm.trans hcode')
    exact ⟨rfl, rfl⟩
  | .loop body position, .loop body' position' =>
    obtain ⟨ho, rfl, j, hbody, hc, rfl⟩ := h
    obtain ⟨-, rfl, j', hbody', hc', rfl⟩ := h'
    -- the bracket has one partner only
    obtain rfl := (hbody.balanced.paired ho hc).closing_unique (hbody'.balanced.paired ho hc')
    obtain rfl := Program.Stands.unique hbody hbody'
    exact ⟨rfl, rfl⟩
  | .command code position, .loop body position' =>
    obtain ⟨hcode, hplain, -, -⟩ := h
    obtain ⟨ho, -⟩ := h'
    rw [Bracket.at?_eq_some hcode, hplain] at ho
    cases ho
  | .loop body position, .command code position' =>
    obtain ⟨ho, -⟩ := h
    obtain ⟨hcode, hplain, -, -⟩ := h'
    rw [Bracket.at?_eq_some hcode, hplain] at ho
    cases ho

/-- A stretch of a source is one sequence of nodes at most. -/
theorem Program.Stands.unique {p q : List Node} {a b : Nat}
    (h : Program.Stands source p a b) (h' : Program.Stands source q a b) : p = q := by
  match p, q with
  | [], [] => rfl
  | m :: ps, n :: qs =>
    obtain ⟨k, hnode, hrest⟩ := h
    obtain ⟨k', hnode', hrest'⟩ := h'
    obtain ⟨rfl, rfl⟩ := hnode.unique hnode'
    rw [hrest.unique hrest']
  | [], n :: qs =>
    obtain rfl : a = b := h
    obtain ⟨k, hnode, hrest⟩ := h'
    have hlt := hnode.lt
    have hle := hrest.balanced.le
    omega
  | m :: ps, [] =>
    obtain rfl : a = b := h'
    obtain ⟨k, hnode, hrest⟩ := h
    have hlt := hnode.lt
    have hle := hrest.balanced.le
    omega

end

/-! ## The reader on its way -/

/-- The invariant of the reader at offset `k`, with the loops entered and not left and the nodes of the
    innermost one, both latest first. -/
def Program.ReadUpTo (source : List Value) : List Unclosed → List Node → Nat → Prop
  | [], level, k => Program.Stands source level.reverse 0 k
  | u :: us, level, k =>
    ∃ i : Nat, u.position = some (i : Int) ∧ at? source i = some .opening ∧
      Program.Stands source level.reverse (i + 1) k ∧ Program.ReadUpTo source us u.before i

namespace Program.ReadUpTo

variable {us : List Unclosed} {u : Unclosed} {level : List Node} {k m : Nat}

/-- One more node on the level under construction. -/
theorem push {n : Node} (h : ReadUpTo source us level k) (hn : n.Stands source k m) :
    ReadUpTo source us (n :: level) m := by
  cases us with
  | nil =>
    show Stands source (n :: level).reverse 0 m
    rw [List.reverse_cons]
    exact Stands.snoc h hn
  | cons u us =>
    obtain ⟨i, hu, ho, hlevel, hbelow⟩ := h
    refine ⟨i, hu, ho, ?_, hbelow⟩
    rw [List.reverse_cons]
    exact hlevel.snoc hn

/-- An opening bracket starts a level of its own. -/
theorem enter (h : ReadUpTo source us level k) (ho : at? source k = some .opening) :
    ReadUpTo source (⟨some (k : Int), level⟩ :: us) [] (k + 1) :=
  ⟨k, rfl, ho, rfl, h⟩

/-- A closing bracket makes a loop of the innermost level. -/
theorem leave (h : ReadUpTo source (u :: us) level k) (hc : at? source k = some .closing) :
    ReadUpTo source us (.loop level.reverse u.position :: u.before) (k + 1) := by
  obtain ⟨i, hu, ho, hlevel, hbelow⟩ := h
  exact hbelow.push ⟨ho, hu, k, hlevel, hc, rfl⟩

/-- As many brackets are unclosed as the height says, and none was closed that was not opened. -/
theorem height_eq (h : ReadUpTo source us level k) :
    height source k = us.length ∧ ∀ j ≤ k, 0 ≤ height source j := by
  induction us generalizing level k with
  | nil =>
    have hbalanced : Balanced source 0 k := Stands.balanced h
    exact hbalanced.beginning
  | cons u us ih =>
    obtain ⟨i, -, ho, hlevel, hbelow⟩ := h
    obtain ⟨hheight, hnonneg⟩ := ih hbelow
    have hopen := Bracket.height_opening ho
    have hbalanced := hlevel.balanced
    constructor
    · rw [hbalanced.level, hopen, hheight, List.length_cons]
      omega
    · -- behind the bracket the level keeps it up, before it what is below does
      intro j hj
      rcases Nat.lt_or_ge i j with hij | hji
      · have habove := hbalanced.above j hij hj
        have hi := hnonneg i (Nat.le_refl i)
        omega
      · exact hnonneg j hji

/-- At the end of the source, the bracket of the innermost unclosed loop is the last one without a
    partner. -/
theorem unpaired (h : ReadUpTo source (u :: us) level source.length) :
    ∃ i : Nat, u.position = some (i : Int) ∧ Unpaired source i ∧ ∀ j, Unpaired source j → j ≤ i := by
  obtain ⟨i, hu, ho, hlevel, -⟩ := h
  have hopen := Bracket.height_opening ho
  refine ⟨i, hu, ⟨ho, ?_⟩, ?_⟩
  · -- behind the bracket the source never comes down to the height before it
    intro j hj
    have habove := hlevel.balanced.above (j + 1) (by have := hj.lt; omega)
      (Bracket.lt_length_of_at? hj.closing)
    have hclosed := hj.level
    omega
  · -- all that is opened later stands on the innermost level, where it is closed
    intro j hj
    rcases Nat.lt_or_ge i j with hij | hji
    · obtain ⟨j', hj'⟩ := hlevel.paired hij (Bracket.lt_length_of_at? hj.1) hj.1
      exact absurd hj' (hj.2 j')
    · exact hji

end Program.ReadUpTo

/-! ## What the reader gives -/

/-- The three outcomes of reading a source. -/
inductive Program.Reads (source : List Value) : Except Fault Program → Prop where
  /-- A tree that stands in the whole source. -/
  | tree {p : Program} (h : Program.Stands source p 0 source.length) : Reads source (.ok p)
  /-- A closing bracket with nothing to close. -/
  | stray {level : List Node} {k : Nat} (h : Program.Stands source level 0 k)
      (hc : at? source k = some .closing) : Reads source (.error (.strayClose (.int k)))
  /-- An unclosed bracket at the end. -/
  | unclosed {us : List Unclosed} {u : Unclosed} {level : List Node}
      (h : Program.ReadUpTo source (u :: us) level source.length) :
    Reads source (.error (.openLoop (Fault.positionValue u.position)))

namespace Program

variable {us : List Unclosed} {level : List Node} {k : Nat} {c : Value} {rest : List Value}

/-! ### One value -/

theorem readFrom_opening (h : Bracket.of? c = some .opening) :
    readFrom k us level (c :: rest) = readFrom (k + 1) (⟨some (k : Int), level⟩ :: us) [] rest :=
  if_pos (Bracket.of?_eq_opening_iff.1 h)

theorem readFrom_stray (h : Bracket.of? c = some .closing) :
    readFrom k [] level (c :: rest) = .error (.strayClose (.int k)) := by
  have hclose := Bracket.of?_eq_closing_iff.1 h
  rw [readFrom, if_neg (by rw [hclose]; decide), if_pos hclose]

theorem readFrom_closing {u : Unclosed} (h : Bracket.of? c = some .closing) :
    readFrom k (u :: us) level (c :: rest) =
      readFrom (k + 1) us (.loop level.reverse u.position :: u.before) rest := by
  have hclose := Bracket.of?_eq_closing_iff.1 h
  rw [readFrom, if_neg (by rw [hclose]; decide), if_pos hclose]

theorem readFrom_plain (h : Bracket.of? c = none) :
    readFrom k us level (c :: rest) = readFrom (k + 1) us (.command c (some (k : Int)) :: level) rest := by
  have hopen : ¬ c.whole? = some openCode := fun hc => by
    rw [Bracket.of?_eq_opening_iff.2 hc] at h
    cases h
  have hclose : ¬ c.whole? = some closeCode := fun hc => by
    rw [Bracket.of?_eq_closing_iff.2 hc] at h
    cases h
  exact (if_neg hopen).trans (if_neg hclose)

/-! ### A whole source -/

/-- A reader on its way comes to one of the three outcomes. -/
theorem readFrom_reads (h : ReadUpTo source us level k) (hrest : source.drop k = rest)
    (hk : k ≤ source.length) : Reads source (readFrom k us level rest) := by
  -- on the values to come: each changes the levels in one of the ways of the invariant
  induction rest generalizing us level k with
  | nil =>
    obtain rfl : k = source.length := Nat.le_antisymm hk (List.drop_eq_nil_iff.1 hrest)
    cases us with
    | nil => exact .tree h
    | cons u us => exact .unclosed h
  | cons c rest ih =>
    have hc : source[k]? = some c := by
      rw [← List.head?_drop, hrest, List.head?_cons]
    have hnext : source.drop (k + 1) = rest := by
      rw [← List.tail_drop, hrest, List.tail_cons]
    have hlt : k + 1 ≤ source.length := (List.getElem?_eq_some_iff.1 hc).1
    have hat := Bracket.at?_eq_some hc
    rcases hb : Bracket.of? c with _ | _ | _
    · rw [readFrom_plain hb]
      exact ih (h.push ⟨hc, hb, rfl, rfl⟩) hnext hlt
    · rw [readFrom_opening hb]
      exact ih (h.enter (hat.trans hb)) hnext hlt
    · cases us with
      | nil =>
        rw [readFrom_stray hb]
        exact .stray h (hat.trans hb)
      | cons u us =>
        rw [readFrom_closing hb]
        exact ih (h.leave (hat.trans hb)) hnext hlt

/-- **The specification of the reader.** -/
theorem read_reads (source : List Value) : Reads source (Program.read source) :=
  readFrom_reads (k := 0) rfl rfl (Nat.zero_le _)

/-- A tree that was read stands in its source. -/
theorem stands_of_read {p : Program} (h : Program.read source = .ok p) :
    Stands source p 0 source.length := by
  have hreads := read_reads source
  rw [h] at hreads
  cases hreads with
  | tree hp => exact hp

/-- Values between the brackets do not matter for where the reader stops, nor why. -/
theorem readFrom_map_unit {us us' : List Unclosed} {level level' : List Node} {s t : List Value}
    (hs : s.map Bracket.of? = t.map Bracket.of?)
    (hu : us.map (·.position) = us'.map (·.position)) :
    (readFrom k us level s).map (fun _ => ()) = (readFrom k us' level' t).map fun _ => () := by
  -- the levels differ on the way, but the same brackets are unclosed, at the same offsets
  induction s generalizing us us' level level' t k with
  | nil =>
    cases t with
    | nil =>
      cases us with
      | nil =>
        cases us' with
        | nil => rfl
        | cons u' us' => cases hu
      | cons u us =>
        cases us' with
        | nil => cases hu
        | cons u' us' =>
          have hposition : u.position = u'.position := (List.cons.inj hu).1
          show Except.error _ = Except.error _
          rw [hposition]
    | cons d t => cases hs
  | cons c s ih =>
    cases t with
    | nil => cases hs
    | cons d t =>
      obtain ⟨hcd, hst⟩ := List.cons.inj hs
      rcases hb : Bracket.of? c with _ | _ | _
      · rw [readFrom_plain hb, readFrom_plain (hcd.symm.trans hb)]
        exact ih hst hu
      · rw [readFrom_opening hb, readFrom_opening (hcd.symm.trans hb)]
        exact ih hst (congrArg (some (k : Int) :: ·) hu)
      · cases us with
        | nil =>
          cases us' with
          | nil => rw [readFrom_stray hb, readFrom_stray (hcd.symm.trans hb)]
          | cons u' us' => cases hu
        | cons u us =>
          cases us' with
          | nil => cases hu
          | cons u' us' =>
            rw [readFrom_closing hb, readFrom_closing (hcd.symm.trans hb)]
            exact ih hst (List.cons.inj hu).2

/-! ## The verdict -/

/-- In a source with a tree, as many brackets are closed as are opened, and none that was not opened. -/
theorem Stands.height {p : Program} (h : Stands source p 0 source.length) :
    height source source.length = 0 ∧ ∀ k, 0 ≤ height source k := by
  obtain ⟨hzero, hnonneg⟩ := h.balanced.beginning
  exact ⟨hzero, Bracket.height_nonneg hnonneg⟩

/-- A closing bracket behind a balanced start ends the shortest beginning that closes too much. -/
theorem Stands.height_stray (h : Stands source level 0 k) (hc : at? source k = some .closing) :
    Bracket.height source (k + 1) < 0 ∧ ∀ j ≤ k, 0 ≤ Bracket.height source j := by
  obtain ⟨hzero, hnonneg⟩ := h.balanced.beginning
  refine ⟨?_, hnonneg⟩
  rw [Bracket.height_closing hc, hzero]
  decide

/-- A source with unclosed brackets opens more than it closes, and closes nothing that was not opened. -/
theorem ReadUpTo.height {u : Unclosed} (h : ReadUpTo source (u :: us) level source.length) :
    0 < Bracket.height source source.length ∧ ∀ k, 0 ≤ Bracket.height source k := by
  obtain ⟨hheight, hnonneg⟩ := h.height_eq
  refine ⟨?_, Bracket.height_nonneg hnonneg⟩
  rw [hheight, List.length_cons]
  omega

/-- A source that closes what it opens, and nothing else, is read. -/
theorem exists_read (hnonneg : ∀ k, 0 ≤ height source k)
    (hlevel : height source source.length = 0) : ∃ p, Program.read source = .ok p := by
  have hreads := read_reads source
  generalize Program.read source = r at hreads ⊢
  cases hreads with
  | tree h => exact ⟨_, rfl⟩
  | stray h hc => exact absurd (hnonneg _) (Int.not_le.2 (h.height_stray hc).1)
  | unclosed h =>
    have hpos := h.height.1
    omega

/-- **The verdict of the reader.**  If some beginning of a source closes more than it opens, the source is
    refused at the end of the shortest one.  If none does and the source opens more than it closes, it
    is refused at the last bracket without a partner.  In all other cases a tree is read.  Sources with
    the same brackets at the same offsets have the same verdict. -/
theorem read_verdict (source : List Value) :
    ((∃ k, height source k < 0) →
      ∃ k : Nat, height source (k + 1) < 0 ∧ (∀ j ≤ k, 0 ≤ height source j) ∧
        Program.read source = .error (.strayClose (.int k))) ∧
    ((∀ k, 0 ≤ height source k) → 0 < height source source.length →
      ∃ i : Nat, Unpaired source i ∧ (∀ j, Unpaired source j → j ≤ i) ∧
        Program.read source = .error (.openLoop (.int i))) ∧
    ((∀ k, 0 ≤ height source k) → height source source.length = 0 →
      ∃ p, Program.read source = .ok p) ∧
    (∀ other : List Value, other.map Bracket.of? = source.map Bracket.of? →
      (Program.read other).map (fun _ => ()) = (Program.read source).map fun _ => ()) := by
  have hreads := read_reads source
  refine ⟨?_, ?_, ?_, ?_⟩
  · rintro ⟨k, hk⟩
    generalize Program.read source = r at hreads ⊢
    cases hreads with
    | tree h => exact absurd (h.height.2 k) (Int.not_le.2 hk)
    | stray h hc => exact ⟨_, (h.height_stray hc).1, (h.height_stray hc).2, rfl⟩
    | unclosed h => exact absurd (h.height.2 k) (Int.not_le.2 hk)
  · intro hnonneg hpos
    generalize Program.read source = r at hreads ⊢
    cases hreads with
    | tree h =>
      have hzero := h.height.1
      omega
    | stray h hc => exact absurd (hnonneg _) (Int.not_le.2 (h.height_stray hc).1)
    | unclosed h =>
      obtain ⟨i, hu, hi, hlast⟩ := h.unpaired
      exact ⟨i, hi, hlast, by rw [hu]; rfl⟩
  · intro hnonneg hzero
    generalize Program.read source = r at hreads ⊢
    cases hreads with
    | tree h => exact ⟨_, rfl⟩
    | stray h hc => exact absurd (hnonneg _) (Int.not_le.2 (h.height_stray hc).1)
    | unclosed h =>
      have hpos := h.height.1
      omega
  · intro other hsame
    exact readFrom_map_unit hsame rfl

end Program

end TapeLang
