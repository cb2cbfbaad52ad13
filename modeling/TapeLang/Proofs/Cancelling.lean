/-
  Cancelling — nodes that take back what they have done.

  1. **Raising (`Program.Raises`)** — some nodes raise the byte under the head by a number, modulo 256, and do
     nothing else that can be seen.  Numbers add up where nodes are put in a row, so nodes that add up to
     zero do nothing at all: `+` and `-`, and as many of either as there are bytes.  Nothing needs to be
     said of 0 and 255: bytes are a ring.
  2. **Moving there and back (`Program.neutral_right_left`)** — the head is where it was.  The cell that it
     left is kept now, if it was not before, and that cannot be seen.
  3. **Any place (`Program.Inserted`)** — neutral nodes may be put before any node, or behind the last, on
     any level.  In a loop they are run as often as it is passed, and the crux of `Node.Matched.loop`
     is that this does not matter.
-/
import TapeLang.Proofs.Congruence

namespace TapeLang

/-! ## Neutral nodes -/

/-- Some nodes come to their end from every state, in one like it. -/
def Program.Neutral (g : List Node) : Prop := ∀ s, ∃ t, Program.Ends g s (.done t) ∧ s.Like t

/-- Neutral nodes do nothing else. -/
theorem Program.Neutral.ends {g : List Node} (hg : Program.Neutral g) {s : State} {e : Effect}
    (h : Program.Ends g s e) : ∃ t, e = .done t ∧ s.Like t := by
  obtain ⟨t, hends, hlike⟩ := hg s
  exact ⟨t, h.endsIn.unique hends.endsIn, hlike⟩

/-! ## Places -/

/-- The second sequence is the first with some nodes put in at one place. -/
inductive Program.Inserted (g : List Node) : List Node → List Node → Prop where
  /-- The place is before all nodes, or there are none. -/
  | here (p : List Node) : Program.Inserted g p (g ++ p)
  /-- The place is behind the first node. -/
  | behind (n : Node) {p q : List Node} (h : Program.Inserted g p q) :
    Program.Inserted g (n :: p) (n :: q)
  /-- The place is in the loop that comes first. -/
  | inside (position : Option Int) (rest : List Node) {body body' : List Node}
      (h : Program.Inserted g body body') :
    Program.Inserted g (.loop body position :: rest) (.loop body' position :: rest)

namespace Program

variable {g p q : List Node}

/-- What is without neutral nodes is matched by what has them in front. -/
theorem Neutral.matched_append (hg : Neutral g) (p : List Node) : Matched Eq p (g ++ p) := by
  intro s t e hlike h
  obtain ⟨t', hends, hafter⟩ := hg t
  obtain ⟨e', hp, halike⟩ := Matched.refl p (hlike.trans hafter) h
  exact ⟨e', ends_append_iff.2 (.inl ⟨t', hends, hp⟩), halike⟩

/-- What has neutral nodes in front is matched by what is without them. -/
theorem Neutral.append_matched (hg : Neutral g) (p : List Node) : Matched Eq (g ++ p) p := by
  intro s t e hlike h
  rcases ends_append_iff.1 h with ⟨s', hends, hp⟩ | ⟨f, s', hends, -⟩
  · obtain ⟨_, heq, hafter⟩ := hg.ends hends
    cases heq
    exact Matched.refl p (hafter.symm.trans hlike) hp
  · obtain ⟨_, heq, -⟩ := hg.ends hends
    cases heq

/-- **Neutral nodes at any place** do nothing: either program matches the other. -/
theorem Inserted.matched (h : Inserted g p q) (hg : Neutral g) : Matched Eq p q ∧ Matched Eq q p := by
  induction h with
  | here p => exact ⟨hg.matched_append p, hg.append_matched p⟩
  | behind n _ ih =>
    exact ⟨Matched.cons (Node.Matched.refl n) ih.1, Matched.cons (Node.Matched.refl n) ih.2⟩
  | inside position rest _ ih =>
    exact ⟨Matched.cons (Node.Matched.loop ih.1 _ _) (Matched.refl rest),
      Matched.cons (Node.Matched.loop ih.2 _ _) (Matched.refl rest)⟩

/-- From any state the two programs agree. -/
theorem Inserted.agree (h : Inserted g p q) (hg : Neutral g) (s : State) : Agree Eq p s q s := by
  obtain ⟨hpq, hqp⟩ := h.matched hg
  refine .of_matched hpq ?_ (.refl s)
  intro s t e hlike hends
  obtain ⟨e', hends', halike⟩ := hqp hlike hends
  exact ⟨e', hends', halike.imp fun _ _ => Eq.symm⟩

end Program

/-! ## Raising -/

/-- The byte under the head is raised by a number, and all else is as it was. -/
structure State.Raised (k : UInt8) (s t : State) : Prop where
  /-- The head is where it was. -/
  head : t.tape.head = s.tape.head
  /-- The byte under it is raised, and no other. -/
  bytes : ∀ a, t.tape.byteAt a = if a = s.tape.head then s.tape.byteAt a + k else s.tape.byteAt a
  /-- The same input is left. -/
  input : t.input = s.input
  /-- The same bytes were put out. -/
  output : t.output = s.output

namespace State.Raised

variable {j k : UInt8} {s t u : State}

theorem refl (s : State) : s.Raised 0 s := by
  refine ⟨rfl, fun a => ?_, rfl, rfl⟩
  rw [UInt8.add_zero, ite_self]

/-- What is raised twice is raised by the sum. -/
theorem trans (h : s.Raised j t) (h' : t.Raised k u) : s.Raised (j + k) u := by
  refine ⟨h'.head.trans h.head, fun a => ?_, h'.input.trans h.input, h'.output.trans h.output⟩
  rw [h'.bytes, h.bytes, h.head]
  by_cases ha : a = s.tape.head
  · rw [if_pos ha, if_pos ha, if_pos ha, UInt8.add_assoc]
  · rw [if_neg ha, if_neg ha, if_neg ha]

/-- To raise by zero is to change nothing. -/
theorem like (h : s.Raised 0 t) : s.Like t := by
  refine ⟨⟨h.head.symm, fun a => ?_⟩, h.input.symm, h.output.symm⟩
  rw [h.bytes, UInt8.add_zero, ite_self]

/-- To write a byte is to raise the one that was there by the difference. -/
theorem write (s : State) {b : UInt8} (h : b = s.tape.cell + k) :
    s.Raised k { s.count with tape := s.tape.write b } := by
  refine ⟨Tape.write_head _ _, fun a => ?_, rfl, rfl⟩
  show (s.tape.write b).byteAt a = _
  rw [Tape.write_byteAt, h]
  by_cases ha : a = s.tape.head
  · rw [if_pos ha, if_pos ha, ha]
    rfl
  · rw [if_neg ha, if_neg ha]

end State.Raised

/-- A node is a command, and this one. -/
def Node.Means (command : Command) (n : Node) : Prop :=
  ∃ c x, n = .command c x ∧ Command.ofCode? c = some command

/-- A node raises the byte under the head by a number. -/
def Node.Raises (k : UInt8) (n : Node) : Prop := ∀ s, ∃ t, n.Ends s (.done t) ∧ s.Raised k t

/-- Some nodes raise the byte under the head by a number. -/
def Program.Raises (k : UInt8) (g : List Node) : Prop :=
  ∀ s, ∃ t, Program.Ends g s (.done t) ∧ s.Raised k t

theorem Node.Means.raises_increment {n : Node} (h : n.Means .increment) : n.Raises 1 := by
  obtain ⟨c, x, rfl, hc⟩ := h
  exact fun s => ⟨_, .command (.increment hc), .write s rfl⟩

theorem Node.Means.raises_decrement {n : Node} (h : n.Means .decrement) : n.Raises (-1) := by
  obtain ⟨c, x, rfl, hc⟩ := h
  exact fun s => ⟨_, .command (.decrement hc), .write s (UInt8.sub_eq_add_neg _ _)⟩

namespace Program

variable {j k : UInt8} {m n : Node} {g : List Node}

theorem Raises.nil : Raises 0 [] := fun s => ⟨s, .nil, .refl s⟩

theorem Raises.cons (hn : n.Raises j) (hg : Raises k g) : Raises (j + k) (n :: g) := by
  intro s
  obtain ⟨t, hnode, ht⟩ := hn s
  obtain ⟨u, hrest, hu⟩ := hg t
  exact ⟨u, .cons hnode hrest, ht.trans hu⟩

/-- Nodes of one kind raise the byte by as many times as they are. -/
theorem raises_all (h : ∀ n ∈ g, n.Raises k) : Raises (UInt8.ofNat g.length * k) g := by
  induction g with
  | nil => exact UInt8.zero_mul ▸ Raises.nil
  | cons n rest ih =>
    obtain ⟨hn, hrest⟩ := List.forall_mem_cons.1 h
    have hsum : UInt8.ofNat (n :: rest).length * k = k + UInt8.ofNat rest.length * k := by
      have hone : UInt8.ofNat 1 * k = k := UInt8.one_mul k
      rw [List.length_cons, UInt8.ofNat_add, UInt8.add_mul, UInt8.add_comm, hone]
    rw [hsum]
    exact Raises.cons hn (ih hrest)

/-- Nodes that raise by zero are neutral. -/
theorem Raises.neutral (h : Raises 0 g) : Neutral g := by
  intro s
  obtain ⟨t, hends, ht⟩ := h s
  exact ⟨t, hends, ht.like⟩

/-- A move to the right and back to the left is neutral. -/
theorem neutral_right_left (hm : m.Means .right) (hn : n.Means .left) : Neutral [m, n] := by
  obtain ⟨c, x, rfl, hc⟩ := hm
  obtain ⟨d, y, rfl, hd⟩ := hn
  intro s
  have hhead : s.tape.right.head = s.tape.head + 1 := congrArg (· + 1) s.tape.reach_head
  refine ⟨_, .cons (.command (.right hc)) (.cons (.command (.left hd hhead)) .nil), ?_⟩
  exact ⟨⟨rfl, fun a => (s.tape.reach_byteAt a).symm⟩, rfl, rfl⟩

/-! ## The theorem -/

/-- Nodes that take back what they have done. -/
inductive Cancelling : List Node → Prop where
  /-- Up and down. -/
  | upDown {m n : Node} (hm : m.Means .increment) (hn : n.Means .decrement) : Cancelling [m, n]
  /-- Down and up. -/
  | downUp {m n : Node} (hm : m.Means .decrement) (hn : n.Means .increment) : Cancelling [m, n]
  /-- To the right and back. -/
  | rightLeft {m n : Node} (hm : m.Means .right) (hn : n.Means .left) : Cancelling [m, n]
  /-- Up through all bytes. -/
  | allUp {g : List Node} (hlength : g.length = 256) (h : ∀ n ∈ g, n.Means .increment) : Cancelling g
  /-- Down through all bytes. -/
  | allDown {g : List Node} (hlength : g.length = 256) (h : ∀ n ∈ g, n.Means .decrement) :
    Cancelling g

theorem Cancelling.neutral (h : Cancelling g) : Neutral g := by
  have hzero : UInt8.ofNat 256 = 0 := rfl
  cases h with
  | upDown hm hn =>
    exact Raises.neutral (Raises.cons hm.raises_increment (Raises.cons hn.raises_decrement .nil))
  | downUp hm hn =>
    exact Raises.neutral (Raises.cons hm.raises_decrement (Raises.cons hn.raises_increment .nil))
  | rightLeft hm hn => exact neutral_right_left hm hn
  | allUp hlength h =>
    have hsum := raises_all fun n hn => (h n hn).raises_increment
    rw [hlength, hzero, UInt8.zero_mul] at hsum
    exact hsum.neutral
  | allDown hlength h =>
    have hsum := raises_all fun n hn => (h n hn).raises_decrement
    rw [hlength, hzero, UInt8.zero_mul] at hsum
    exact hsum.neutral

/-- **Cancelling nodes are neutral at every place.**  Put nodes that take back what they have done at any
    place of a program, on any level.  On any input and with any chunk, whatever outcome the one of the two
    programs has, the other has as well: the same failure, or none, with the heads at one address, the
    same bytes at every address, the same input left and the same output.  So they give the same result
    with enough budget, and neither ends if the other never does. -/
theorem cancelling_changes_nothing {g p q : Program} (hg : Cancelling g) (h : Inserted g p q)
    (chunk : Chunk) (input : List UInt8) :
    (∀ e, (Machine.start p (State.initial chunk input)).EndsIn e →
      ∃ e', (Machine.start q (State.initial chunk input)).EndsIn e' ∧
        Effect.Alike Eq State.Like e e') ∧
    (∀ e', (Machine.start q (State.initial chunk input)).EndsIn e' →
      ∃ e, (Machine.start p (State.initial chunk input)).EndsIn e ∧
        Effect.Alike Eq State.Like e e') ∧
    (∀ r, q.Returns chunk input r ↔ p.Returns chunk input r) ∧
    ((Machine.start p (State.initial chunk input)).Endless ↔
      (Machine.start q (State.initial chunk input)).Endless) := by
  have hagree := h.agree hg.neutral (State.initial chunk input)
  refine ⟨?_, ?_, ?_, hagree.endless_iff⟩
  · simpa only [endsIn_iff] using hagree.forward
  · simpa only [endsIn_iff] using hagree.backward
  · intro r
    have hid : ∀ r : Except Failure (List UInt8), r.mapError id = r := by
      intro r
      cases r <;> rfl
    rw [(hagree.imp fun _ _ h => h.symm : Agree (fun f g => g = id f) _ _ _ _).returns_iff]
    simp only [hid, exists_eq_right']

/-- `><`, put together by hand. -/
def thereAndBack : Program := [.command (.int 62) none, .command (.int 60) none]

/-- `+[.-]`, which puts out a one. -/
def countdown : Program :=
  [.command (.int 43) (some 0), .loop [.command (.int 46) (some 2), .command (.int 45) (some 3)] (some 1)]

/-- The same with `><` at the start of the loop, which keeps a cell more. -/
def countdownWandering : Program :=
  [.command (.int 43) (some 0),
    .loop (thereAndBack ++ [.command (.int 46) (some 2), .command (.int 45) (some 3)]) (some 1)]

/-- `+[.-]` puts out a one, and so does `+[><.-]`. -/
theorem cancelling_changes_nothing_in_loop :
    Cancelling thereAndBack ∧ Inserted thereAndBack countdown countdownWandering ∧
      countdownWandering.Returns ⟨1, by decide⟩ [] (.ok [1]) := by
  have hg : Cancelling thereAndBack := .rightLeft ⟨_, _, rfl, rfl⟩ ⟨_, _, rfl, rfl⟩
  have h : Inserted thereAndBack countdown countdownWandering := .behind _ (.inside _ _ (.here _))
  have hresult := (cancelling_changes_nothing hg h ⟨1, by decide⟩ []).2.2.1 (.ok [1])
  exact ⟨hg, h, hresult.2 ⟨(fun h => nomatch h), 9, rfl⟩⟩

end Program

end TapeLang
