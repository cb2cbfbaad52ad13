/-
  Chunk — the size of a chunk cannot be observed.

  Two tapes that grow by chunks of different sizes keep different numbers of cells, so their states are
  not equal.  They are the **same** (`Tape.Same`) in all that a program can ask for: where the head is,
  and which byte is at every address, a cell that is not kept being zero.

  The crux is that nothing in a machine looks at the cells but through `Tape.byteAt`: growing does not
  change a byte, writing changes the one under the head, and tests, output and windows only read.  So a
  move keeps sameness, and two machines that differ in their chunks stay in lockstep.  So do the machines
  that write a trace (`Trace.move_same`): what they write is about bytes and addresses.
-/
import TapeLang.Proofs.Run
import TapeLang.Trace

namespace TapeLang

/-! ## Tapes -/

/-- Two tapes hold the same bytes, kept or not, under the same head. -/
structure Tape.Same (t u : Tape) : Prop where
  /-- The heads are at one address. -/
  head : t.head = u.head
  /-- The bytes are the same at every address. -/
  bytes : ∀ a, t.byteAt a = u.byteAt a

namespace Tape.Same

variable {t u : Tape}

theorem blank (c d : Chunk) : (Tape.blank c).Same (Tape.blank d) := ⟨rfl, fun _ => rfl⟩

theorem cell (h : t.Same u) : t.cell = u.cell := by
  rw [Tape.cell, Tape.cell, h.head, h.bytes]

theorem reach (h : t.Same u) : t.reach.Same u.reach :=
  ⟨by rw [reach_head, reach_head, h.head], fun a => by rw [reach_byteAt, reach_byteAt, h.bytes]⟩

theorem write (h : t.Same u) (b : UInt8) : (t.write b).Same (u.write b) := by
  refine ⟨by rw [write_head, write_head, h.head], fun a => ?_⟩
  rw [write_byteAt, write_byteAt, h.head, h.bytes]

theorem increment (h : t.Same u) : t.increment.Same u.increment := by
  rw [Tape.increment, Tape.increment, h.cell]
  exact h.write _

theorem decrement (h : t.Same u) : t.decrement.Same u.decrement := by
  rw [Tape.decrement, Tape.decrement, h.cell]
  exact h.write _

theorem right (h : t.Same u) : t.right.Same u.right := by
  refine ⟨?_, h.reach.bytes⟩
  show t.reach.head + 1 = u.reach.head + 1
  rw [h.reach.head]

theorem seek (h : t.Same u) (address : Nat) : (t.seek address).Same (u.seek address) :=
  ⟨rfl, h.bytes⟩

theorem window (h : t.Same u) (size : Int) : t.window size = u.window size := by
  simp only [Tape.window, h.head, h.bytes]

end Tape.Same

/-! ## States -/

/-- Two states differ in the cells that are kept only. -/
structure State.Same (s t : State) : Prop where
  /-- The tapes hold the same bytes. -/
  tape : s.tape.Same t.tape
  /-- The same input is left. -/
  input : s.input = t.input
  /-- The same bytes were put out. -/
  output : s.output = t.output
  /-- As many steps were started. -/
  steps : s.steps = t.steps

namespace State.Same

variable {s t : State}

theorem initial (c d : Chunk) (input : List UInt8) :
    (State.initial c input).Same (State.initial d input) :=
  ⟨.blank c d, rfl, rfl, rfl⟩

theorem count (h : s.Same t) : s.count.Same t.count :=
  ⟨h.tape, h.input, h.output, congrArg (· + 1) h.steps⟩

theorem test (h : s.Same t) : s.test.Same t.test :=
  ⟨h.tape.reach, h.input, h.output, congrArg (· + 1) h.steps⟩

/-- What a command does to a state, it does to one that is the same. -/
theorem acts {code : Value} {position : Option Int} {e : Effect} (h : s.Same t)
    (hs : Acts code position s e) :
    ∃ e', Acts code position t e' ∧ Effect.Alike Eq State.Same e e' := by
  cases hs with
  | right hc => exact ⟨_, .right hc, .done ⟨h.tape.right, h.input, h.output, h.steps⟩⟩
  | left hc hn =>
    exact ⟨_, .left hc (h.tape.head ▸ hn), .done ⟨h.tape.seek _, h.input, h.output, h.steps⟩⟩
  | edge hc hn => exact ⟨_, .edge hc (h.tape.head ▸ hn), .failed rfl h⟩
  | increment hc => exact ⟨_, .increment hc, .done ⟨h.tape.increment, h.input, h.output, h.steps⟩⟩
  | decrement hc => exact ⟨_, .decrement hc, .done ⟨h.tape.decrement, h.input, h.output, h.steps⟩⟩
  | output hc =>
    have hput : s.output.push s.tape.cell = t.output.push t.tape.cell := by
      rw [h.output, h.tape.cell]
    exact ⟨_, .output hc, .done ⟨h.tape.reach, h.input, hput, h.steps⟩⟩
  | input hc hi =>
    exact ⟨_, .input hc (h.input ▸ hi), .done ⟨h.tape.write _, rfl, h.output, h.steps⟩⟩
  | exhausted hc hi => exact ⟨_, .exhausted hc (h.input ▸ hi), .failed rfl h⟩
  | unknown hc => exact ⟨_, .unknown hc, .failed rfl h⟩

/-- A command does the same to both states, or fails for the same reason. -/
theorem execute (h : s.Same t) (code : Value) (position : Option Int) :
    Effect.Alike Eq State.Same (s.execute code position) (t.execute code position) := by
  obtain ⟨e, hacts, halike⟩ := h.acts (acts_execute code position s)
  rw [hacts.execute_eq]
  exact halike

end State.Same

/-! ## Machines -/

/-- Two machines are at one place of one program, in states that are the same. -/
structure Machine.Same (m m' : Machine) : Prop where
  /-- The cursors are equal. -/
  cursors : m.cursors = m'.cursors
  /-- The states are the same. -/
  state : m.state.Same m'.state

namespace Machine.Same

/-- A move keeps sameness. -/
theorem move (m m' : Machine) (h : m.Same m') :
    Progress.Alike Machine.Same Eq State.Same m.move m'.move := by
  obtain ⟨cursors, s⟩ := m
  obtain ⟨cursors', t⟩ := m'
  obtain ⟨hc, hs⟩ := h
  cases hc
  -- the cursors are equal, so both make a move of one kind
  match cursors with
  | [] => exact .finished hs
  | ⟨before, []⟩ :: below => exact .going ⟨rfl, hs⟩
  | ⟨before, .command code position :: after⟩ :: below =>
    have he := hs.count.execute code position
    simp only [Machine.move]
    generalize s.count.execute code position = e at he ⊢
    generalize t.count.execute code position = e' at he ⊢
    cases he with
    | done h => exact .going ⟨rfl, h⟩
    | failed hf h => exact .failed hf h
  | ⟨before, .loop body position :: after⟩ :: below =>
    by_cases hcell : s.tape.cell = 0
    · rw [move_skip hcell, move_skip (hs.tape.cell ▸ hcell)]
      exact .going ⟨rfl, hs.test⟩
    · rw [move_enter hcell, move_enter (hs.tape.cell ▸ hcell)]
      exact .going ⟨rfl, hs.test⟩

end Machine.Same

/-- Two runs of one program on one input, with chunks of any two sizes, are in lockstep. -/
theorem Program.run_same (p : Program) (input : List UInt8) (c d : Chunk) (n : Nat) :
    Ending.Alike Machine.Same Eq State.Same (p.run n c input) (p.run n d input) := by
  have hstart : (Machine.start p (State.initial c input)).Same
      (Machine.start p (State.initial d input)) := ⟨rfl, .initial c d input⟩
  exact Machine.run_alike Machine.Same.move hstart n

/-! ## Results -/

/-- Runs in lockstep have one result, after as many steps. -/
theorem Ending.Alike.result {e e' : Ending} (h : Ending.Alike Machine.Same Eq State.Same e e') :
    e.result = e'.result ∧ e.state.steps = e'.state.steps := by
  cases h with
  | unfinished h => exact ⟨rfl, h.state.steps⟩
  | finished h => exact ⟨by rw [Ending.result, Ending.result, h.output], h.steps⟩
  | failed hf h => exact ⟨congrArg Except.error hf, h.steps⟩

/-! ## Traces -/

namespace Trace

/-- The rows about a state show bytes and addresses only. -/
theorem stateRows_eq_of_same {s t : State} (h : s.Same t) (range : Int) :
    stateRows range s = stateRows range t := by
  simp only [stateRows, h.tape.window, h.tape.head, h.input, h.output]

/-- A step is started with the same lines, or not at all. -/
theorem announce_same {s t : State} (h : s.Same t) (n : Node) :
    (announce n s).1 = (announce n t).1 ∧ (announce n s).2.Same (announce n t).2 := by
  cases n with
  | command code position => exact ⟨by simp only [announce, h.steps], h⟩
  | loop body position =>
    have hreach := h.tape.reach
    exact ⟨by simp only [announce, h.steps, hreach.head, hreach.cell],
      hreach, h.input, h.output, h.steps⟩

/-- A command is carried out alike, with the same rows about the state behind it. -/
theorem perform_same {s t : State} (h : s.Same t) (range : Option Int) (code : Value)
    (position : Option Int) :
    (perform range code position s).1 = (perform range code position t).1 ∧
      Effect.Alike Eq State.Same (perform range code position s).2 (perform range code position t).2 := by
  have he := h.execute code position
  unfold perform
  generalize s.execute code position = e at he ⊢
  generalize t.execute code position = e' at he ⊢
  cases he with
  | failed hf h => exact ⟨rfl, .failed hf h⟩
  | done h =>
    cases range with
    | none => exact ⟨rfl, .failed rfl h⟩
    | some size => exact ⟨stateRows_eq_of_same h size, .done h⟩

/-- **One move** of both machines is told in the same lines, and leads alike. -/
theorem move_same {m m' : Machine} (h : m.Same m') (range : Option Int) :
    (move range m).1 = (move range m').1 ∧
      Progress.Alike Machine.Same Eq State.Same (move range m).2 (move range m').2 := by
  obtain ⟨cursors, s⟩ := m
  obtain ⟨cursors', t⟩ := m'
  obtain ⟨hc, hs⟩ := h
  cases hc
  match cursors with
  | [] => exact ⟨rfl, .finished hs⟩
  | ⟨before, []⟩ :: below => exact ⟨rfl, .going ⟨rfl, hs⟩⟩
  | ⟨before, n :: after⟩ :: below =>
    obtain ⟨hlines, hstate⟩ := announce_same hs.count n
    simp only [move]
    generalize announce n s.count = a at hlines hstate ⊢
    generalize announce n t.count = b at hlines hstate ⊢
    obtain ⟨lines, s⟩ := a
    obtain ⟨lines', t⟩ := b
    obtain rfl : lines = lines' := hlines
    cases lines with
    | error f => exact ⟨rfl, .failed rfl hstate⟩
    | ok lines =>
      cases n with
      | command code position =>
        obtain ⟨hrows, heffect⟩ := perform_same hstate range code position
        dsimp only
        generalize perform range code position s = e at hrows heffect ⊢
        generalize perform range code position t = e' at hrows heffect ⊢
        obtain ⟨rows, e⟩ := e
        obtain ⟨rows', e'⟩ := e'
        obtain rfl : rows = rows' := hrows
        cases heffect with
        | done h => exact ⟨rfl, .going ⟨rfl, h⟩⟩
        | failed hf h => exact ⟨rfl, .failed hf h⟩
      | loop body position =>
        dsimp only at hstate ⊢
        have hreach := hstate.tape.reach
        have hnext : State.Same { s with tape := s.tape.reach } { t with tape := t.tape.reach } :=
          ⟨hreach, hstate.input, hstate.output, hstate.steps⟩
        by_cases hcell : s.tape.reach.cell = 0
        · rw [if_pos hcell, if_pos (hreach.cell ▸ hcell)]
          exact ⟨rfl, .going ⟨rfl, hnext⟩⟩
        · rw [if_neg hcell, if_neg (hreach.cell ▸ hcell)]
          exact ⟨rfl, .going ⟨rfl, hnext⟩⟩

/-- **A run** of both machines is told in the same lines, and comes to the same end. -/
theorem run_same {m m' : Machine} (h : m.Same m') (range : Option Int) (n : Nat) (told : Array Text) :
    (run range n told m).1 = (run range n told m').1 ∧
      Ending.Alike Machine.Same Eq State.Same (run range n told m).2 (run range n told m').2 := by
  induction n generalizing m m' told with
  | zero => exact ⟨rfl, .unfinished h⟩
  | succ n ih =>
    obtain ⟨hlines, hprogress⟩ := move_same h range
    simp only [run]
    generalize move range m = a at hlines hprogress ⊢
    generalize move range m' = b at hlines hprogress ⊢
    obtain ⟨lines, a⟩ := a
    obtain ⟨lines', b⟩ := b
    obtain rfl : lines = lines' := hlines
    cases hprogress with
    | going h => exact ih h _
    | finished h => exact ⟨rfl, .finished h⟩
    | failed hf h => exact ⟨rfl, .failed hf h⟩

/-- The last lines name the output or the failure. -/
theorem closing_eq_of_alike {e e' : Ending} (h : Ending.Alike Machine.Same Eq State.Same e e') :
    closing e = closing e' := by
  cases h with
  | unfinished h => rfl
  | finished h => simp only [closing, h.output]
  | failed hf h =>
    cases hf
    rename_i f _ _
    cases f <;> rfl

end Trace

/-- The lines of a trace do not hang on the chunk. -/
theorem Program.trace_lines_eq [Codecs] (p : Program) (n : Nat) (encoding : Text) (range : Int) (input : Value)
    (c d : Chunk) : (p.trace n ⟨c, encoding⟩ range input).lines =
      (p.trace n ⟨d, encoding⟩ range input).lines := by
  have hheading : Trace.heading ⟨c, encoding⟩ p input = Trace.heading ⟨d, encoding⟩ p input := rfl
  rcases h : Trace.heading ⟨d, encoding⟩ p input with ⟨lines, f | bytes⟩
  · simp only [Program.trace, traceShowing, hheading, h]
  · simp only [Program.trace, traceShowing, hheading, h]
    have hbytes : Settings.bytesOf ⟨c, encoding⟩ input = Settings.bytesOf ⟨d, encoding⟩ input := rfl
    rw [hbytes]
    cases Settings.bytesOf ⟨d, encoding⟩ input with
    | error f => rfl
    | ok bytes =>
      have hstart : (Machine.start p (State.initial c bytes)).Same
          (Machine.start p (State.initial d bytes)) := ⟨rfl, .initial c d bytes⟩
      obtain ⟨htold, hending⟩ := Trace.run_same hstart (some range) n #[]
      simp only [htold, Trace.closing_eq_of_alike hending]

/-- **The chunk is unobservable.**  Runs of a program on an input with any two sizes of chunks are in
    lockstep: after any number of moves both are at work at the same node with the same cursors, or both
    have come to the end, or both have failed in the same way, and the states agree in steps, head,
    input, output and the byte at every address.  So they have the same result after the same number of
    steps, and their traces are the same text. -/
theorem Program.chunk_unobservable [Codecs] (p : Program) (c d : Chunk) :
    (∀ input n, Ending.Alike Machine.Same Eq State.Same (p.run n c input) (p.run n d input)) ∧
    (∀ input n, (p.run n c input).result = (p.run n d input).result ∧
      (p.run n c input).state.steps = (p.run n d input).state.steps) ∧
    (∀ input n encoding range, (p.trace n ⟨c, encoding⟩ range input).lines =
      (p.trace n ⟨d, encoding⟩ range input).lines) := by
  refine ⟨?_, ?_, ?_⟩
  · intro input n
    exact p.run_same input c d n
  · intro input n
    exact (p.run_same input c d n).result
  · intro input n encoding range
    exact p.trace_lines_eq n encoding range input c d

end TapeLang
