/-
  Tracing — telling a run does not change it.

  A traced run is made by a machine of its own, which may grow the tape to show a cell, may be unable to
  show a command or a position, and makes bytes of the input a second time.

  1. **Who watches** — `Trace.account` is what an observer can say of the next move of a plain machine, by
     looking at the machine alone.

  2. **The crux (`Trace.move_eq`)** — one move of the tracing machine is the plain move, told as the
     observer tells it, as long as what is to come can be told: the commands are bytes, and the positions
     can be written.  The cell that is shown is the one that the loop test needs anyway, so growing the
     tape for it is growing it a moment early; and the window of a state reads cells that are not kept
     without keeping them.  That what is to come can be told is an invariant of moves
     (`Machine.ToCome.move`).

  3. **The run** — so the tracing machine is, after any number of moves, where the plain one is, and in the
     same state, and its lines are the observer's notes.  A program that has a heading is one of bytes.

  What cannot be told may run all the same without a trace (`Program.runs_untold`).
-/
import TapeLang.Proofs.Run
import TapeLang.Proofs.Writing
import TapeLang.Trace

namespace TapeLang

open TapeLang.Program (commands positions Writable)

/-! ## Who watches -/

namespace Trace

/-- The account of the step that a machine is about to make, after an empty line; nothing if its next
    move is no step. -/
def account (range : Int) (m : Machine) : List Text :=
  match m.node? with
  | none => []
  | some (.loop _ position) =>
    [[], loopLine (m.state.steps + 1) position m.state.tape.head m.state.tape.cell]
  | some (.command code position) =>
    [[], commandLine (m.state.steps + 1) (byteOf code).toOption.toList position] ++
      match m.state.count.execute code position with
      | .done s => stateRows range s
      | .failed .. => []

/-- The accounts of the steps among the first `n` moves. -/
def accounts (range : Int) (n : Nat) (m : Machine) : Array Text :=
  (m.runNoting (fun (notes : Array Text) m => notes ++ account range m) n #[]).1

end Trace

/-! ## What can be told -/

/-- What is so of all commands in a sequence is so of those in its rest and in the bodies in it. -/
theorem Program.hereditary_commands (P : Value → Prop) :
    Machine.Hereditary fun p => ∀ c ∈ commands p, P c where
  tail h := fun c hc => h c (List.mem_append_right _ hc)
  body h := fun c hc => h c (List.mem_append_left _ hc)

/-- A sequence of nodes that can be told: its commands are bytes, and its positions can be written. -/
structure Program.Tellable (p : Program) : Prop where
  /-- The commands are bytes. -/
  bytes : ∀ c ∈ commands p, c.IsByte
  /-- The positions can be written. -/
  places : Program.Writable p

namespace Program.Tellable

/-- What is to come can be told, if all can. -/
theorem hereditary : Machine.Hereditary Program.Tellable where
  tail h := ⟨(Program.hereditary_commands _).tail h.bytes, Writable.hereditary.tail h.places⟩
  body h := ⟨(Program.hereditary_commands _).body h.bytes, Writable.hereditary.body h.places⟩

theorem command {code : Value} {position : Option Int} {rest : List Node}
    (h : Program.Tellable (.command code position :: rest)) : code.IsByte :=
  h.bytes code List.mem_cons_self

theorem place {n : Node} {rest : List Node} (h : Program.Tellable (n :: rest)) :
    (Fault.positionValue n.position).isWritable = true :=
  h.places.first

end Program.Tellable

/-! ## One move told -/

namespace Trace

/-- The byte of a command is shown. -/
theorem bytesOfList_singleton {code : Value} {byte : UInt8} (h : byteOf code = .ok byte) :
    Settings.bytesOfList [code] = .ok [byte] := by
  have hcode := byteOf_eq_ok_iff.1 h
  have hlt := byte.toNat_lt
  rw [Settings.bytesOfList, hcode]
  show (if 0 ≤ (byte.toNat : Int) ∧ (byte.toNat : Int) < 256 then
    Except.ok [UInt8.ofNat (byte.toNat : Int).toNat] else Except.error Failure.bytesRange) = _
  rw [if_pos (by omega), Int.toNat_natCast, UInt8.ofNat_toNat]

/-- A command that is a byte can be shown, at a position that can be written. -/
theorem announce_command {code : Value} {position : Option Int} (h : code.IsByte)
    (hplace : (Fault.positionValue (Node.command code position).position).isWritable = true) (s : State) :
    announce (.command code position) s =
      (.ok [[], commandLine s.steps (byteOf code).toOption.toList position], s) := by
  obtain ⟨b, hb⟩ := Value.isByte_iff.1 h
  have hbyte : byteOf code = .ok b := byteOf_eq_ok_iff.2 hb
  have hchecked : (Fault.positionValue position).checkWritable = .ok () := if_pos hplace
  rw [announce, bytesOfList_singleton hbyte, hbyte, hchecked]
  rfl

/-- A loop can be shown at a position that can be written, and the cell under the head is kept then. -/
theorem announce_loop {body : List Node} {position : Option Int}
    (hplace : (Fault.positionValue (Node.loop body position).position).isWritable = true) (s : State) :
    announce (.loop body position) s =
      (.ok [[], loopLine s.steps position s.tape.head s.tape.cell], { s with tape := s.tape.reach }) := by
  have hchecked : (Fault.positionValue position).checkWritable = .ok () := if_pos hplace
  simp only [announce, hchecked, Tape.reach_head, Tape.reach_cell]
  rfl

/-- **One move.**  The tracing machine makes the move that the plain one makes, and says of it what an
    observer says. -/
theorem move_eq {m : Machine} (h : m.ToCome Program.Tellable) (range : Int) :
    Trace.move (some range) m = (account range m, m.move) := by
  have hmoves := m.moves_move
  generalize m.move = next at hmoves ⊢
  cases hmoves with
  | finish => rfl
  | drop => rfl
  | skip hcell =>
    -- the cell that is shown is kept already when the loop test needs it
    simp only [Trace.move, announce_loop h.head.place, State.count_tape, Tape.reach_reach, Tape.reach_cell,
      if_pos hcell, account, Machine.node?_cons]
    rfl
  | enter hcell =>
    simp only [Trace.move, announce_loop h.head.place, State.count_tape, Tape.reach_reach, Tape.reach_cell,
      if_neg hcell, account, Machine.node?_cons]
    rfl
  | done he =>
    simp only [Trace.move, announce_command h.head.command h.head.place, perform, he, account, Machine.node?_cons]
    rfl
  | fail he =>
    simp only [Trace.move, announce_command h.head.command h.head.place, perform, he, account, Machine.node?_cons]
    rfl

/-! ## The run told -/

/-- **The run.**  The tracing machine is where the plain one is after any number of moves, and its lines
    are the notes of an observer. -/
theorem run_eq {m : Machine} (h : m.ToCome Program.Tellable) (range : Int) (n : Nat)
    (told : Array Text) : Trace.run (some range) n told m =
      m.runNoting (fun (notes : Array Text) m => notes ++ account range m) n told := by
  induction n generalizing m told with
  | zero => rfl
  | succ n ih =>
    simp only [Trace.run, Machine.runNoting, move_eq h]
    cases hmove : m.move with
    | going m' => exact ih (h.move Program.Tellable.hereditary hmove) _
    | finished s => rfl
    | failed f s => rfl

/-- The four lines of a heading that is written to its end. -/
def opening (source input : List UInt8) : List Text :=
  ["TRACE", ("Program: " : Text) ++ shownBytes source, inputRow input, rule]

/-- A heading is written to its end if the program and the input are bytes. -/
theorem heading_eq [Codecs] {s : Settings} {p : Program} {input : Value} {source bytes : List UInt8}
    (hp : Program.source p = .ok source) (hinput : s.bytesOf input = .ok bytes) :
    heading s p input = (opening source bytes, .ok bytes) := by
  simp only [heading, hp, hinput]
  rfl

/-- A heading that is written to its end says that the program and the input are bytes. -/
theorem bytes_of_heading [Codecs] {s : Settings} {p : Program} {input : Value} {lines : List Text}
    {bytes : List UInt8} (h : heading s p input = (lines, .ok bytes)) :
    (∀ c ∈ commands p, c.IsByte) ∧ s.bytesOf input = .ok bytes := by
  cases hp : Program.source p with
  | error f =>
    simp only [heading, hp] at h
    cases h
  | ok source =>
    cases hinput : s.bytesOf input with
    | error f =>
      simp only [heading, hp, hinput] at h
      cases h
    | ok bytes' =>
      rw [heading_eq hp hinput] at h
      cases h
      exact ⟨Program.source_ok_iff.1 ⟨source, hp⟩, rfl⟩

end Trace

namespace Program

/-- A trace that gets past its heading tells the steps of the run, and how the run ends. -/
theorem trace_eq [Codecs] {s : Settings} {p : Program} {input : Value} {lines : List Text}
    {bytes : List UInt8} (hplaces : Writable p)
    (h : Trace.heading s p input = (lines, .ok bytes)) (n : Nat) (range : Int) :
    p.trace n s range input =
      ⟨lines ++ (Trace.accounts range n (Machine.start p (State.initial s.chunk bytes))).toList ++
        Trace.closing (p.run n s.chunk bytes), .ok (p.run n s.chunk bytes),
        (p.run n s.chunk bytes).log p bytes⟩ := by
  obtain ⟨hp, hinput⟩ := Trace.bytes_of_heading h
  simp only [Program.trace, traceShowing, h, hinput]
  rw [Trace.run_eq (Machine.ToCome.start ⟨hp, hplaces⟩ _)]
  simp only [Machine.runNoting_snd]
  rfl

/-- The lines of a trace that gets past its heading. -/
theorem trace_lines [Codecs] {s : Settings} {p : Program} {input : Value} {lines : List Text}
    {bytes : List UInt8} (hplaces : Writable p)
    (h : Trace.heading s p input = (lines, .ok bytes)) (n : Nat) (range : Int) :
    (p.trace n s range input).lines =
      lines ++ (Trace.accounts range n (Machine.start p (State.initial s.chunk bytes))).toList ++
        Trace.closing (p.run n s.chunk bytes) := by
  rw [trace_eq hplaces h]

/-- A trace of a program that can be told ends as the run does, or as making bytes of the input does. -/
theorem trace_ending [Codecs] {s : Settings} {p : Program} (hp : p.Tellable) (n : Nat) (range : Int)
    (input : Value) :
    (p.trace n s range input).ending = (s.bytesOf input).map (p.run n s.chunk) := by
  obtain ⟨source, hsource⟩ := source_ok_iff.2 hp.bytes
  cases hinput : s.bytesOf input with
  | error f =>
    simp only [Program.trace, traceShowing, Trace.heading, hsource, hinput]
    rfl
  | ok bytes =>
    rw [trace_eq hp.places (Trace.heading_eq hsource hinput)]
    rfl

/-- **Tracing changes nothing.**  For a program of bytes at positions that can be written, any settings, input
    and range of cells, the traced run is after any number of moves where the run without a trace is: at
    work at the same place, at the end or at the same failure, and in the same state, down to the cells that
    are kept.  So it has the same result, and it goes on for ever exactly if the run without a trace does. -/
theorem tracing_changes_nothing [Codecs] {p : Program} (hp : ∀ c ∈ commands p, c.IsByte)
    (hplaces : ∀ x ∈ positions p, (Fault.positionValue x).isWritable = true) (s : Settings) (range : Int)
    (input : Value) :
    (∀ n, (p.trace n s range input).ending = (s.bytesOf input).map (p.run n s.chunk)) ∧
    (∀ n, (p.trace n s range input).ending.bind Ending.result =
      (s.bytesOf input).bind fun bytes => (p.run n s.chunk bytes).result) ∧
    ((∀ n, ∃ m, (p.trace n s range input).ending = .ok (.unfinished m)) ↔
      ∃ bytes, s.bytesOf input = .ok bytes ∧
        (Machine.start p (State.initial s.chunk bytes)).Endless) := by
  have htellable : p.Tellable := ⟨hp, hplaces⟩
  refine ⟨?_, ?_, ?_⟩
  · intro n
    exact trace_ending htellable n range input
  · intro n
    rw [trace_ending htellable]
    cases s.bytesOf input <;> rfl
  · simp only [trace_ending htellable]
    cases s.bytesOf input with
    | error f =>
      constructor
      · intro h
        obtain ⟨m, hm⟩ := h 0
        cases hm
      · rintro ⟨bytes, hbytes, -⟩
        cases hbytes
    | ok bytes =>
      constructor
      · intro h
        refine ⟨bytes, rfl, fun n => ?_⟩
        obtain ⟨m, hm⟩ := h n
        exact ⟨m, Except.ok.inj hm⟩
      · rintro ⟨bytes', hbytes, h⟩ n
        cases hbytes
        obtain ⟨m, hm⟩ := h n
        exact ⟨m, congrArg Except.ok hm⟩

/-- `+[<]` goes to the left of the left edge in its loop, with a trace as without one. -/
theorem tracing_changes_nothing_at_edge :
    (Program.trace 4 { chunk := ⟨1, by decide⟩ } (-3)
      [.command (.int 43) (some 0), .loop [.command (.int 60) (some 2)] (some 1)]
      (.list [.int 7])).ending.bind Ending.result = .error (.fault .leftEdge) := by
  obtain ⟨-, hresult, -⟩ := tracing_changes_nothing
    (p := [.command (.int 43) (some 0), .loop [.command (.int 60) (some 2)] (some 1)])
    (by decide) (by decide) { chunk := ⟨1, by decide⟩ } (-3) (.list [.int 7])
  rw [hresult 4]
  rfl

/-! ### What cannot be told -/

/-- The trace of a program that is no byte string breaks off behind its first line. -/
theorem trace_of_source_error [Codecs] {p : Program} {f : Failure} (h : Program.source p = .error f) (n : Nat)
    (s : Settings) (range : Int) (input : Value) :
    (p.trace n s range input).lines = [Text.ofString "TRACE"] ∧
      (p.trace n s range input).ending = .error f := by
  have hheading : Trace.heading s p input = ([Text.ofString "TRACE"], .error f) := by
    simp only [Trace.heading, h]
  rw [Program.trace, traceShowing, hheading]
  exact ⟨rfl, rfl⟩

/-- At a position that is too long the trace of a command breaks off behind the heading. -/
theorem trace_of_not_isWritable [Codecs] {code : Value} {position : Option Int} {s : Settings} {input : Value}
    {byte : UInt8} {bytes : List UInt8} (hcode : byteOf code = .ok byte)
    (hinput : s.bytesOf input = .ok bytes) (hplace : ¬ (Fault.positionValue position).isWritable = true)
    (n : Nat) (range : Int) :
    (Program.trace (n + 1) s range [.command code position] input).lines = Trace.opening [byte] bytes ∧
    (Program.trace (n + 1) s range [.command code position] input).ending =
      .ok (.failed .tooManyDigits (State.initial s.chunk bytes).count) := by
  have hsource : Program.source [.command code position] = .ok [byte] := by
    rw [Program.source_eq]
    exact mapM_byteOf_cons hcode []
  have hchecked : (Fault.positionValue position).checkWritable = .error .tooManyDigits := if_neg hplace
  have hmove : Trace.move (some range) (Machine.start [.command code position] (State.initial s.chunk bytes)) =
      ([], .failed .tooManyDigits (State.initial s.chunk bytes).count) := by
    simp only [Trace.move, Machine.start, Cursor.start, Trace.announce,
      Trace.bytesOfList_singleton hcode, hchecked]
    rfl
  simp only [Program.trace, traceShowing, Trace.heading_eq hsource hinput, hinput, Trace.run, hmove]
  exact ⟨by simp [Trace.closing], trivial⟩

/-- **What cannot be told may run.**  `.` runs at a position of too many digits, and so does a loop that is not
    entered, around a command that is no integer; neither can be traced. -/
theorem runs_untold :
    (∀ c ∈ commands [.command (.int 46) (some (Value.tooLong : Int))], c.IsByte) ∧
    (Program.run 3 ⟨100, by decide⟩ [.command (.int 46) (some (Value.tooLong : Int))] []).result = .ok [0] ∧
    (Program.trace 3 {} 10 [.command (.int 46) (some (Value.tooLong : Int))] .null).ending.bind Ending.result =
      .error .tooManyDigits ∧
    (Program.run 3 ⟨100, by decide⟩ [.loop [.command (.float 43) (some 1)] (some 0)] []).result = .ok [] ∧
    (Program.trace 3 {} 10 [.loop [.command (.float 43) (some 1)] (some 0)] .null).ending.bind Ending.result =
      .error (.notInteger "float") := by
  have hfloat : Program.source [.loop [.command (.float 43) (some 1)] (some 0)] =
      .error (.notInteger "float") := by
    rw [Program.source_eq]
    rfl
  refine ⟨by decide, rfl, ?_, rfl, ?_⟩
  · have hnever := not_isWritable_of_le (Nat.le_refl Value.tooLong)
    have hempty : Settings.bytesOf {} .null = .ok [] := rfl
    have hcode : byteOf (.int 46) = .ok 46 := rfl
    rw [(trace_of_not_isWritable hcode hempty hnever 2 10).2]
    rfl
  · rw [(trace_of_source_error hfloat 3 {} 10 .null).2]
    rfl

end Program

end TapeLang
