/-
  Account — a trace is a faithful account of the run.

  The lines between the heading and the ending are about the steps of the plain machine
  (`Machine.stops`), one after the other and each with its number.  `Trace.Tells` says what the lines
  about a step have to be, by the move that the plain machine makes: a loop is said to be entered if the
  move goes into its body, and to be skipped if the move goes past it; a command that succeeds is followed
  by the state that the move leads to, one that fails by nothing.

  The proof follows the run.  One move makes one step or none (`Machine.steps_move`), so the number
  that the machine counts is the number of the step in the trace; the lines about the move are those that
  `Tells` asks for (`Trace.tells_account`); and `Trace.tells_run` puts them together.

  All lines are printable, whatever bytes are in them, so what is written is as many lines as it should be.
-/
import TapeLang.Proofs.Lines
import TapeLang.Proofs.Tracing

namespace TapeLang

open TapeLang.Program (commands positions)

/-- The next move carries a command out. -/
def Machine.carriesOut (m : Machine) : Bool :=
  match m.node?, m.move with
  | some (.command ..), .going _ => true
  | _, _ => false

/-! ## Failures of programs that can be told -/

/-- A command that is a byte, at a position that can be written, fails with a fault, and its message is
    printable. -/
theorem Acts.fault {code : Value} {position : Option Int} {s t : State} {f : Failure}
    (h : Acts code position s (.failed f t)) (hcode : code.IsByte)
    (hplace : (Fault.positionValue position).isWritable = true) :
    ∃ g : Fault, f = .fault g ∧ g.message.Printable := by
  cases h with
  | edge => exact ⟨.leftEdge, rfl, by decide⟩
  | exhausted => exact ⟨.noInput, rfl, by decide⟩
  | unknown =>
    obtain ⟨n, hn, -⟩ := hcode
    have hinteger : code.integer?.isSome := by rw [hn]; rfl
    exact ⟨.undefined code (Fault.positionValue position) hinteger hplace,
      Failure.undefined_of_isWritable hinteger hplace, Fault.printable_undefined hinteger hplace⟩

/-- A move that fails fails with a fault. -/
theorem Machine.fault_of_move {m : Machine} {f : Failure} {s : State}
    (h : m.ToCome Program.Tellable) (hmove : m.move = .failed f s) :
    ∃ g : Fault, f = .fault g ∧ g.message.Printable := by
  have hmoves := m.moves_move
  rw [hmove] at hmoves
  cases hmoves with
  | @fail _ _ code position _ t u _ he =>
    have hacts := acts_execute code position t.count
    rw [he] at hacts
    exact hacts.fault h.head.command h.head.place

/-- A run that fails fails with a fault. -/
theorem Machine.fault_of_run {m : Machine} {f : Failure} {s : State} {n : Nat}
    (h : m.ToCome Program.Tellable) (hrun : m.run n = .failed f s) :
    ∃ g : Fault, f = .fault g ∧ g.message.Printable := by
  -- the machine that makes the last move still has only nodes to come that can be told
  obtain ⟨k, m', -, hlater, hlast⟩ := exists_last_move hrun
  exact fault_of_move (h.run Program.Tellable.hereditary hlater) hlast

namespace Trace

/-! ## Rows are printable -/

theorem printable_shownBytes (bs : List UInt8) : (shownBytes bs).Printable := .quoted _

theorem printable_byteList (bs : List UInt8) : (byteList bs).Printable := by
  refine .append (.append (by decide) (.join (by decide) ?_)) (by decide)
  intro t ht
  obtain ⟨b, -, rfl⟩ := List.mem_map.1 ht
  exact .natural b.toNat

theorem printable_bothWays (bs : List UInt8) : (bothWays bs).Printable :=
  .append (.append (printable_shownBytes bs) (by decide)) (printable_byteList bs)

theorem printable_inputRow (bs : List UInt8) : (inputRow bs).Printable :=
  .append (by decide) (printable_byteList bs)

theorem printable_outputRow (bs : List UInt8) : (outputRow bs).Printable := by
  unfold outputRow
  split
  · decide
  · exact .append (by decide) (printable_bothWays bs)

theorem printable_memoryRow (values : List UInt8) : (memoryRow values).Printable := by
  refine .append (.append (by decide) (.join (by decide) ?_)) (by decide)
  intro t ht
  obtain ⟨v, -, rfl⟩ := List.mem_map.1 ht
  exact .flushRight (.natural v.toNat) 3

theorem printable_pointerRow (start size head : Nat) : (pointerRow start size head).Printable := by
  refine .append (by decide) (.join (by decide) ?_)
  intro t ht
  obtain ⟨i, -, rfl⟩ := List.mem_map.1 ht
  split <;> decide

theorem printable_addressRow (start size : Nat) : (addressRow start size).Printable := by
  refine .append (by decide) (.join (by decide) ?_)
  intro t ht
  obtain ⟨i, -, rfl⟩ := List.mem_map.1 ht
  exact .flushRight (.natural (start + i)) 3

/-- The rows about a state are printable. -/
theorem printable_stateRows (range : Int) (s : State) : ∀ l ∈ stateRows range s, l.Printable := by
  intro l hl
  simp only [stateRows, List.mem_cons, List.not_mem_nil, or_false] at hl
  rcases hl with rfl | rfl | rfl | rfl | rfl
  · exact printable_memoryRow _
  · exact printable_pointerRow _ _ _
  · exact printable_addressRow _ _
  · exact printable_inputRow _
  · exact printable_outputRow _

theorem printable_commandLine (step : Nat) (byte : List UInt8) (position : Option Int) :
    (commandLine step byte position).Printable :=
  .append (.append (.append (.append (.append (by decide) (.natural step)) (by decide))
    (printable_shownBytes byte)) (by decide)) (Fault.printable_position position)

theorem printable_opening (source input : List UInt8) :
    ∀ l ∈ opening source input, l.Printable := by
  intro l hl
  simp only [opening, List.mem_cons, List.not_mem_nil, or_false] at hl
  rcases hl with rfl | rfl | rfl | rfl
  · decide
  · exact .append (by decide) (printable_shownBytes source)
  · exact printable_inputRow input
  · decide

/-! ## What is told of a step -/

/-- The line about a loop test, with what the walk does. -/
def loopText (step : Nat) (position : Option Int) (head : Nat) (cell : UInt8) (action : Text) : Text :=
  "Step " ++ Text.natural step ++ ": Loop at offset " ++ placeText position ++ ": cell[" ++
    Text.natural head ++ "] = " ++ Text.natural cell.toNat ++ " -> " ++ action

/-- What is told of step `k`, which a machine is about to make, by the move that it makes. -/
inductive Tells (range : Int) (k : Nat) : Machine → List Text → Prop where
  /-- The move goes into the body of a loop. -/
  | enter {before body after : List Node} {position : Option Int} {below : List Cursor} {s t : State}
      (hmove : (Machine.mk (⟨before, .loop body position :: after⟩ :: below) s).move =
        .going ⟨Cursor.start body :: ⟨before, .loop body position :: after⟩ :: below, t⟩) :
      Tells range k ⟨⟨before, .loop body position :: after⟩ :: below, s⟩
        [[], loopText k position s.tape.head s.tape.cell "enter loop"]
  /-- The move goes past a loop. -/
  | skip {before body after : List Node} {position : Option Int} {below : List Cursor} {s t : State}
      (hmove : (Machine.mk (⟨before, .loop body position :: after⟩ :: below) s).move =
        .going ⟨⟨.loop body position :: before, after⟩ :: below, t⟩) :
      Tells range k ⟨⟨before, .loop body position :: after⟩ :: below, s⟩
        [[], loopText k position s.tape.head s.tape.cell "skip loop"]
  /-- The move carries a command out and goes past it. -/
  | done {before after : List Node} {code : Value} {position : Option Int} {below : List Cursor}
      {s t : State} {byte : UInt8} (hcode : code.integer? = some (byte.toNat : Int))
      (hmove : (Machine.mk (⟨before, .command code position :: after⟩ :: below) s).move =
        .going ⟨⟨.command code position :: before, after⟩ :: below, t⟩) :
      Tells range k ⟨⟨before, .command code position :: after⟩ :: below, s⟩
        ([[], commandLine k [byte] position] ++ stateRows range t)
  /-- The move fails at a command. -/
  | failed {before after : List Node} {code : Value} {position : Option Int} {below : List Cursor}
      {s t : State} {f : Failure} {byte : UInt8} (hcode : code.integer? = some (byte.toNat : Int))
      (hmove : (Machine.mk (⟨before, .command code position :: after⟩ :: below) s).move =
        .failed f t) :
      Tells range k ⟨⟨before, .command code position :: after⟩ :: below, s⟩
        [[], commandLine k [byte] position]

/-- What is told of some steps, one after the other, the first of them with number `k`. -/
inductive TellsFrom (range : Int) : Nat → List Machine → List Text → Prop where
  /-- There is nothing to tell of no steps. -/
  | nil {k : Nat} : TellsFrom range k [] []
  /-- A step is told, and then those behind it. -/
  | cons {k : Nat} {m : Machine} {ms : List Machine} {block rest : List Text}
      (hblock : Tells range k m block) (hrest : TellsFrom range (k + 1) ms rest) :
      TellsFrom range k (m :: ms) (block ++ rest)

/-- What is told of the end of a run, by its result. -/
inductive TellsEnd : Except Failure (List UInt8) → List Text → Prop where
  /-- The output, if there is one. -/
  | returned (output : List UInt8) :
    TellsEnd (.ok output) [[], "FINAL RESULT:", "Output: " ++ bothWays output]
  /-- The fault, if there is one. -/
  | aborted (f : Fault) :
    TellsEnd (.error (.fault f)) [[], "ABORTED: " ++ f.message, "Output discarded."]

section

variable {range : Int} {k : Nat} {m : Machine} {ms : List Machine} {lines : List Text}

/-- A step is told in two lines, and a command that succeeds in five more. -/
theorem Tells.length (h : Tells range k m lines) :
    lines.length = 2 + if m.carriesOut then 5 else 0 := by
  cases h with
  | enter hmove => rfl
  | skip hmove => rfl
  | done hcode hmove =>
    rw [Machine.carriesOut, hmove]
    rfl
  | failed hcode hmove =>
    rw [Machine.carriesOut, hmove]
    rfl

theorem printable_loopText (step : Nat) (position : Option Int) (head : Nat) (cell : UInt8)
    {action : Text} (h : action.Printable) : (loopText step position head cell action).Printable :=
  .append (.append (.append (.append (.append (.append (.append (.append (.append (by decide)
    (.natural step)) (by decide)) (Fault.printable_position position)) (by decide)) (.natural head))
    (by decide)) (.natural cell.toNat)) (by decide)) h

theorem Tells.printable (h : Tells range k m lines) : ∀ l ∈ lines, l.Printable := by
  have htwo : ∀ {t : Text}, t.Printable → ∀ l ∈ ([[], t] : List Text), l.Printable := fun ht =>
    List.forall_mem_cons.2 ⟨.nil, List.forall_mem_singleton.2 ht⟩
  cases h with
  | enter => exact htwo (printable_loopText _ _ _ _ (by decide))
  | skip => exact htwo (printable_loopText _ _ _ _ (by decide))
  | done hcode hmove =>
    exact List.forall_mem_append.2 ⟨htwo (printable_commandLine _ _ _), printable_stateRows range _⟩
  | failed => exact htwo (printable_commandLine _ _ _)

theorem TellsFrom.length (h : TellsFrom range k ms lines) :
    lines.length = 2 * ms.length + 5 * ms.countP (·.carriesOut) := by
  induction h with
  | nil => rfl
  | cons hblock hrest ih =>
    rw [List.length_append, hblock.length, ih, List.length_cons, List.countP_cons]
    split <;> omega

theorem TellsFrom.printable (h : TellsFrom range k ms lines) : ∀ l ∈ lines, l.Printable := by
  induction h with
  | nil => exact fun _ hl => nomatch hl
  | cons hblock hrest ih => exact List.forall_mem_append.2 ⟨hblock.printable, ih⟩

end

/-! ## Steps are told as they are made -/

/-- **One move.**  What an observer notes before a step is what is to be told of it. -/
theorem tells_account {m : Machine} (h : m.ToCome Program.Tellable) (hstop : m.stop? = some m)
    (range : Int) : Tells range (m.state.steps + 1) m (account range m) := by
  have hmoves := m.moves_move
  generalize hmove : m.move = next at hmoves
  cases hmoves with
  | finish => cases hstop
  | drop => cases hstop
  | skip hcell =>
    simp only [account, Machine.node?_cons, loopLine, if_pos hcell]
    exact .skip hmove
  | enter hcell =>
    simp only [account, Machine.node?_cons, loopLine, if_neg hcell]
    exact .enter hmove
  | done he =>
    obtain ⟨byte, hbyte⟩ := Value.isByte_iff.1 h.head.command
    simp only [account, Machine.node?_cons, byteOf_eq_ok_iff.2 hbyte, he]
    exact .done hbyte hmove
  | fail he =>
    obtain ⟨byte, hbyte⟩ := Value.isByte_iff.1 h.head.command
    simp only [account, Machine.node?_cons, byteOf_eq_ok_iff.2 hbyte, he]
    exact .failed hbyte hmove

/-- If a move is no step, an observer notes nothing. -/
theorem account_of_no_stop {m : Machine} (hstop : m.stop? = none) (range : Int) :
    account range m = [] := by
  rw [account, Option.map_eq_none_iff.1 hstop]

/-- What is told of the steps after a move goes on from what an observer notes before it. -/
theorem TellsFrom.before_move {m : Machine} (h : m.ToCome Program.Tellable) {range : Int}
    {ms : List Machine} {rest : List Text} (hrest : TellsFrom range (m.move.state.steps + 1) ms rest) :
    TellsFrom range (m.state.steps + 1) (m.stop?.toList ++ ms) (account range m ++ rest) := by
  rw [m.steps_move] at hrest
  cases hnode : m.node? with
  | none =>
    have hstop : m.stop? = none := by rw [Machine.stop?, hnode]; rfl
    rw [account_of_no_stop hstop]
    rw [hstop] at hrest ⊢
    exact hrest
  | some node =>
    have hstop : m.stop? = some m := by rw [Machine.stop?, hnode]; rfl
    rw [hstop] at hrest ⊢
    exact .cons (tells_account h hstop range) hrest

/-- **The run.**  What an observer notes is what is to be told of the steps. -/
theorem tells_run {m : Machine} (h : m.ToCome Program.Tellable) (range : Int) (n : Nat) :
    TellsFrom range (m.state.steps + 1) (m.stops n)
      (m.runNoting (fun notes m => notes ++ account range m) n []).1 := by
  induction n generalizing m with
  | zero => exact .nil
  | succ n ih =>
    by_cases hgoing : ∃ m', m.move = .going m'
    · obtain ⟨m', hmove⟩ := hgoing
      rw [Machine.stops_of_going hmove, Machine.runNoting_of_going _ hmove]
      exact TellsFrom.before_move h (hmove ▸ ih (h.move Program.Tellable.hereditary hmove))
    · have hended : ∀ m', m.move ≠ .going m' := fun m' hmove => hgoing ⟨m', hmove⟩
      have hlast : TellsFrom range (m.state.steps + 1) (m.stop?.toList ++ []) (account range m ++ []) :=
        TellsFrom.before_move h .nil
      rw [List.append_nil, List.append_nil] at hlast
      rw [Machine.stops_of_ended hended, Machine.runNoting_of_ended _ hended]
      exact hlast

/-- **The end.**  A run of a program that can be told is told by its result when it has ended. -/
theorem tellsEnd_run {m : Machine} (h : m.ToCome Program.Tellable) {n : Nat}
    (hend : ∀ m', m.run n ≠ .unfinished m') :
    TellsEnd (m.run n).result (closing (m.run n)) ∧ ∀ l ∈ closing (m.run n), l.Printable := by
  cases hrun : m.run n with
  | finished s =>
    refine ⟨.returned s.output.toList, ?_⟩
    exact List.forall_mem_cons.2 ⟨.nil, List.forall_mem_cons.2 ⟨by decide,
      List.forall_mem_singleton.2 (.append (by decide) (printable_bothWays _))⟩⟩
  | failed f s =>
    obtain ⟨g, rfl, hmessage⟩ := Machine.fault_of_run h hrun
    refine ⟨.aborted g, ?_⟩
    exact List.forall_mem_cons.2 ⟨.nil, List.forall_mem_cons.2 ⟨.append (by decide) hmessage,
      List.forall_mem_singleton.2 (by decide)⟩⟩
  | unfinished m' => exact absurd hrun (hend m')

theorem TellsEnd.length {result : Except Failure (List UInt8)} {lines : List Text}
    (h : TellsEnd result lines) : lines.length = 3 := by
  cases h <;> rfl

end Trace

namespace Program

/-- **A trace is a faithful account of the run.**  Let a program of bytes at positions that can be written run
    on an input that can be made bytes, with any settings and range of cells, to an end.  Then the lines of
    the trace are four of heading, what is to be told of the steps that the plain machine makes, in their
    order and with their numbers, and three that tell the result.  So their number is known; no line break
    is inside a line, and from the text that is written the lines can be read again. -/
theorem trace_tells_run [Codecs] {p : Program} (hp : ∀ c ∈ commands p, c.IsByte)
    (hplaces : ∀ x ∈ positions p, (Fault.positionValue x).isWritable = true) {s : Settings} {input : Value}
    {bytes : List UInt8} (hinput : s.bytesOf input = .ok bytes) {n : Nat}
    (hend : ∀ m, p.run n s.chunk bytes ≠ .unfinished m) (range : Int) :
    ∃ source body footer,
      Program.source p = .ok source ∧
      (p.trace n s range input).lines = Trace.opening source bytes ++ body ++ footer ∧
      Trace.TellsFrom range 1 ((Machine.start p (State.initial s.chunk bytes)).stops n) body ∧
      Trace.TellsEnd (p.run n s.chunk bytes).result footer ∧
      ((Machine.start p (State.initial s.chunk bytes)).stops n).length =
        (p.run n s.chunk bytes).state.steps ∧
      (p.trace n s range input).lines.length = 4 + 2 * (p.run n s.chunk bytes).state.steps +
        5 * ((Machine.start p (State.initial s.chunk bytes)).stops n).countP (·.carriesOut) + 3 ∧
      (∀ l ∈ (p.trace n s range input).lines, ∀ c ∈ l, c.breaksLine = false) ∧
      Text.lines (Text.ofLines (p.trace n s range input).lines) = (p.trace n s range input).lines ++ [[]] := by
  obtain ⟨source, hsource⟩ := source_ok_iff.2 hp
  have htellable : p.Tellable := ⟨hp, hplaces⟩
  have hcome := Machine.ToCome.start htellable (State.initial s.chunk bytes)
  have htells := Trace.tells_run (m := Machine.start p (State.initial s.chunk bytes)) hcome range n
  have hfooter : Trace.TellsEnd (p.run n s.chunk bytes).result (Trace.closing (p.run n s.chunk bytes)) ∧
      ∀ l ∈ Trace.closing (p.run n s.chunk bytes), l.Printable := Trace.tellsEnd_run hcome hend
  have hsteps : (p.run n s.chunk bytes).state.steps =
      ((Machine.start p (State.initial s.chunk bytes)).stops n).length :=
    (Machine.run_steps _ n).trans (Nat.zero_add _)
  have hlines := trace_lines hplaces (Trace.heading_eq hsource hinput) n range
  rw [Trace.accounts, Machine.runNoting_toList, List.nil_append] at hlines
  have hclean : ∀ l ∈ (p.trace n s range input).lines, l.Printable := by
    rw [hlines]
    exact List.forall_mem_append.2 ⟨List.forall_mem_append.2
      ⟨Trace.printable_opening source bytes, htells.printable⟩, hfooter.2⟩
  refine ⟨source, _, _, hsource, hlines, htells, hfooter.1, hsteps.symm, ?_, ?_, ?_⟩
  · have hopening : (Trace.opening source bytes).length = 4 := rfl
    rw [hlines, List.length_append, List.length_append, htells.length, hfooter.1.length, hopening, hsteps]
    omega
  · exact fun l hl c hc => CodePoint.breaksLine_of_isPrintable (hclean l hl c hc)
  · exact Text.lines_ofLines hclean

/-- `+[<]` makes three steps, one of them a command that succeeds. -/
theorem trace_tells_run_at_edge :
    (Program.trace 4 { chunk := ⟨1, by decide⟩ } 3
      [.command (.int 43) (some 0), .loop [.command (.int 60) (some 2)] (some 1)]
      (.list [.int 7])).lines.length = 4 + 2 * 3 + 5 * 1 + 3 := by
  have hend : ∀ m, Program.run 4 ⟨1, by decide⟩
      [.command (.int 43) (some 0), .loop [.command (.int 60) (some 2)] (some 1)] [7] ≠ .unfinished m := by
    intro m h
    cases h
  have hinput : Settings.bytesOf { chunk := ⟨1, by decide⟩ } (.list [.int 7]) = .ok [7] := rfl
  obtain ⟨source, body, footer, -, -, -, -, -, hlength, -, -⟩ :=
    trace_tells_run (by decide) (by decide) hinput hend 3
  rw [hlength]
  rfl

/-- `.` at a position of too many digits runs to its end in one step; its trace breaks off behind the heading,
    and so does not tell the step, nor any ending.  A loop that is not entered, around a command that is no
    integer, is a step as well, and not even its program is shown. -/
theorem trace_breaks_off :
    (Program.run 3 ⟨100, by decide⟩ [.command (.int 46) (some (Value.tooLong : Int))] []).result = .ok [0] ∧
    (Program.trace 3 {} 10 [.command (.int 46) (some (Value.tooLong : Int))] .null).lines =
      Trace.opening [46] [] ∧
    (Program.run 3 ⟨100, by decide⟩ [.loop [.command (.float 43) (some 1)] (some 0)] []).result = .ok [] ∧
    (Program.trace 3 {} 10 [.loop [.command (.float 43) (some 1)] (some 0)] .null).lines =
      [Text.ofString "TRACE"] := by
  have hfloat : Program.source [.loop [.command (.float 43) (some 1)] (some 0)] =
      .error (.notInteger "float") := by
    rw [Program.source_eq]
    rfl
  have hnever := not_isWritable_of_le (Nat.le_refl Value.tooLong)
  have hempty : Settings.bytesOf {} .null = .ok [] := rfl
  have hcode : byteOf (.int 46) = .ok 46 := rfl
  exact ⟨rfl, (trace_of_not_isWritable hcode hempty hnever 2 10).1, rfl,
    (trace_of_source_error hfloat 3 {} 10 .null).1⟩

end Program

end TapeLang
