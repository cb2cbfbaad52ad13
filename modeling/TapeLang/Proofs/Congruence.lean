/-
  Congruence — programs in the place of programs.

  Two states are **alike** (`State.Like`) if they hold the same bytes under the same head and agree in input
  and output.  How many steps were counted, and which cells are kept, may differ: no command looks at
  the former, and none can see the latter.

  A program **matches** another (`Program.Matched`) if it comes, from any state that is alike, to what the
  other comes to.  Nothing is said of how many steps that takes, so a program can match a shorter one.

  1. **Parts (`Program.Matched.cons`, `Node.Matched.loop`)** — what is put together from parts that match
     matches.  The crux is the loop: its passes are counted by the derivation and not by steps, so one pass
     of the one loop is one of the other, whatever the bodies take.
  2. **Names (`Program.Related`)** — programs whose commands mean the same, but are told in another way when
     there are no such commands, match up to that (`Failure.Told`).
  3. **Both ways (`Program.Agree`)** — two programs of which either matches the other never end together.
  4. **Results (`Program.Returns`)** — what a run gives with enough budget is what its outcome gives.
-/
import TapeLang.Proofs.Chunk
import TapeLang.Proofs.Positions
import TapeLang.Proofs.Sequence

namespace TapeLang

/-! ## States -/

/-- Two states agree in all but the count of steps and the cells that are kept. -/
structure State.Like (s t : State) : Prop where
  /-- The tapes hold the same bytes. -/
  tape : s.tape.Same t.tape
  /-- The same input is left. -/
  input : s.input = t.input
  /-- The same bytes were put out. -/
  output : s.output = t.output

/-- The state with another count of steps. -/
def State.counting (s : State) (steps : Nat) : State := { s with steps }

/-- The effect with another count of steps. -/
def Effect.counting (steps : Nat) : Effect → Effect
  | .done s => .done (s.counting steps)
  | .failed f s => .failed f (s.counting steps)

/-- No command looks at the count of steps. -/
theorem State.execute_counting (s : State) (steps : Nat) (code : Value) (position : Option Int) :
    (s.counting steps).execute code position = (s.execute code position).counting steps := by
  obtain ⟨tape, input, output, _⟩ := s
  unfold execute
  cases Command.ofCode? code with
  | none => rfl
  | some command =>
    cases command with
    | left =>
      simp only [counting]
      cases tape.left? <;> rfl
    | input => cases input <;> rfl
    | right | increment | decrement | output => rfl

namespace State.Like

variable {s t u : State}

theorem refl (s : State) : s.Like s := ⟨⟨rfl, fun _ => rfl⟩, rfl, rfl⟩

theorem symm (h : s.Like t) : t.Like s :=
  ⟨⟨h.tape.head.symm, fun a => (h.tape.bytes a).symm⟩, h.input.symm, h.output.symm⟩

theorem trans (h : s.Like t) (h' : t.Like u) : s.Like u :=
  ⟨⟨h.tape.head.trans h'.tape.head, fun a => (h.tape.bytes a).trans (h'.tape.bytes a)⟩,
    h.input.trans h'.input, h.output.trans h'.output⟩

/-- A loop test cannot be seen. -/
theorem test_right (s : State) : s.Like s.test :=
  ⟨⟨(Tape.reach_head _).symm, fun a => (Tape.reach_byteAt _ a).symm⟩, rfl, rfl⟩

theorem test (h : s.Like t) : s.test.Like t.test := (test_right s).symm.trans (h.trans (test_right t))

theorem count (h : s.Like t) : s.count.Like t.count := ⟨h.tape, h.input, h.output⟩

/-- A command does the same to states that are alike. -/
theorem execute (h : s.Like t) (code : Value) (position : Option Int) :
    Effect.Alike Eq State.Like (s.execute code position) (t.execute code position) := by
  have hsame : (s.counting t.steps).Same t := ⟨h.tape, h.input, h.output, rfl⟩
  have he := hsame.execute code position
  rw [State.execute_counting] at he
  generalize s.execute code position = e at he ⊢
  generalize t.execute code position = e' at he ⊢
  cases e with
  | done s' =>
    cases he with
    | done h => exact .done ⟨h.tape, h.input, h.output⟩
  | failed f s' =>
    cases he with
    | failed hf h => exact .failed hf ⟨h.tape, h.input, h.output⟩

end State.Like

/-! ## Matching -/

/-- What the one node does from a state, the other does from any state like it. -/
def Node.Matched (F : Failure → Failure → Prop) (m n : Node) : Prop :=
  ∀ {s t : State} {e : Effect}, s.Like t → Node.Ends m s e →
    ∃ e', Node.Ends n t e' ∧ Effect.Alike F State.Like e e'

/-- What the one sequence of nodes does from a state, the other does from any state like it. -/
def Program.Matched (F : Failure → Failure → Prop) (p q : List Node) : Prop :=
  ∀ {s t : State} {e : Effect}, s.Like t → Program.Ends p s e →
    ∃ e', Program.Ends q t e' ∧ Effect.Alike F State.Like e e'

section

variable {F : Failure → Failure → Prop}

theorem Program.Matched.nil : Program.Matched F [] [] := by
  intro s t e hlike h
  cases h
  exact ⟨_, .nil, .done hlike⟩

/-- Nodes that match, put before sequences that match. -/
theorem Program.Matched.cons {m n : Node} {ps qs : List Node} (hnode : Node.Matched F m n)
    (hrest : Program.Matched F ps qs) : Program.Matched F (m :: ps) (n :: qs) := by
  intro s t e hlike h
  cases h with
  | cons hm hps =>
    obtain ⟨_, hn, halike⟩ := hnode hlike hm
    cases halike with
    | done hnext =>
      obtain ⟨e', hqs, halike⟩ := hrest hnext hps
      exact ⟨e', .cons hn hqs, halike⟩
  | stop hm =>
    obtain ⟨_, hn, halike⟩ := hnode hlike hm
    cases halike with
    | failed hf hlast => exact ⟨_, .stop hn, .failed hf hlast⟩

/-- Commands that mean the same, whatever they are told by. -/
theorem Node.Matched.command {R : Value → Option Int → Value → Option Int → Prop} {c d : Value}
    {x y : Option Int} (hcode : Command.ofCode? c = Command.ofCode? d) (h : R c x d y) :
    Node.Matched (Failure.Told R) (.command c x) (.command d y) := by
  intro s t e hlike hends
  cases hends with
  | command hacts =>
    obtain ⟨e', hother, htold⟩ := hacts.told hcode h
    have he := hlike.count.execute d y
    rw [hother.execute_eq] at he
    refine ⟨_, .command (acts_execute d y t.count), ?_⟩
    generalize t.count.execute d y = e'' at he ⊢
    cases htold with
    | done heq =>
      cases heq
      cases he with
      | done hnext => exact .done hnext
    | failed hf heq =>
      cases heq
      cases he with
      | failed heq hlast => exact .failed (heq ▸ hf) hlast

/-- **A loop does what a loop does whose body it matches**, pass by pass. -/
theorem Node.Ends.matched_loop {body body' : List Node} {x y : Option Int}
    (hbody : Program.Matched F body body') {n : Node} {s : State} {e : Effect} : Node.Ends n s e →
    ∀ {t : State}, n = .loop body x → s.Like t →
      ∃ e', Node.Ends (.loop body' y) t e' ∧ Effect.Alike F State.Like e e'
  | .command _, _, hn, _ => nomatch hn
  | .over hzero, _, _, hlike => ⟨_, .over (hlike.test.tape.cell ▸ hzero), .done hlike.test⟩
  | .again hcell hpass hloop, _, hn, hlike => by
    obtain ⟨_, hpass', halike⟩ := hbody hlike.test ((Node.loop.inj hn).1 ▸ hpass)
    cases halike with
    | done hnext =>
      -- behind the pass both stand at their loops again
      obtain ⟨e', hloop', halike⟩ := hloop.matched_loop hbody hn hnext
      exact ⟨e', .again (hlike.test.tape.cell ▸ hcell) hpass' hloop', halike⟩
  | .broken hcell hpass, _, hn, hlike => by
    obtain ⟨_, hpass', halike⟩ := hbody hlike.test ((Node.loop.inj hn).1 ▸ hpass)
    cases halike with
    | failed hf hlast => exact ⟨_, .broken (hlike.test.tape.cell ▸ hcell) hpass', .failed hf hlast⟩

/-- Loops whose bodies match. -/
theorem Node.Matched.loop {body body' : List Node} (h : Program.Matched F body body')
    (x y : Option Int) : Node.Matched F (.loop body x) (.loop body' y) :=
  fun hlike hends => hends.matched_loop h rfl hlike

end

/-! ## Names -/

mutual

/-- Two nodes differ in their commands only, which mean the same, and of which `R` holds with where they
    stand. -/
inductive Node.Related (R : Value → Option Int → Value → Option Int → Prop) : Node → Node → Prop where
  /-- Two commands. -/
  | command {c d : Value} {x y : Option Int} (hcode : Command.ofCode? c = Command.ofCode? d)
      (h : R c x d y) : Node.Related R (.command c x) (.command d y)
  /-- Two loops. -/
  | loop {body body' : List Node} {x y : Option Int} (h : Program.Related R body body') :
    Node.Related R (.loop body x) (.loop body' y)

/-- Two sequences differ in their commands only. -/
inductive Program.Related (R : Value → Option Int → Value → Option Int → Prop) :
    List Node → List Node → Prop where
  /-- There are no nodes. -/
  | nil : Program.Related R [] []
  /-- The first nodes, and the rests. -/
  | cons {m n : Node} {ps qs : List Node} (hnode : Node.Related R m n)
      (hrest : Program.Related R ps qs) : Program.Related R (m :: ps) (n :: qs)

end

section

variable {R : Value → Option Int → Value → Option Int → Prop}

mutual

theorem Node.Related.matched {m n : Node} : Node.Related R m n → Node.Matched (Failure.Told R) m n
  | .command hcode h => Node.Matched.command hcode h
  | .loop h => Node.Matched.loop h.matched _ _

/-- **Programs that differ in their commands only** do the same, up to how commands are told. -/
theorem Program.Related.matched {p q : List Node} :
    Program.Related R p q → Program.Matched (Failure.Told R) p q
  | .nil => Program.Matched.nil
  | .cons hnode hrest => Program.Matched.cons hnode.matched hrest.matched

end

mutual

theorem Node.Related.symm {m n : Node} :
    Node.Related R m n → Node.Related (fun d y c x => R c x d y) n m
  | .command hcode h => .command hcode.symm h
  | .loop h => .loop h.symm

theorem Program.Related.symm {p q : List Node} :
    Program.Related R p q → Program.Related (fun d y c x => R c x d y) q p
  | .nil => .nil
  | .cons hnode hrest => .cons hnode.symm hrest.symm

end

mutual

theorem Node.Related.refl (h : ∀ c x, R c x c x) : ∀ n : Node, n.Related R n
  | .command c x => .command rfl (h c x)
  | .loop body _ => .loop (Program.Related.refl h body)

theorem Program.Related.refl (h : ∀ c x, R c x c x) : ∀ p : List Node, Program.Related R p p
  | [] => .nil
  | n :: rest => .cons (Node.Related.refl h n) (Program.Related.refl h rest)

end

theorem Failure.Told.symm {f g : Failure} (h : Failure.Told R f g) :
    Failure.Told (fun d y c x => R c x d y) g f := by
  cases h with
  | edge => exact .edge
  | exhausted => exact .exhausted
  | unknown h => exact .unknown h

end

/-- Failures that are told in the same way are equal. -/
theorem Failure.Told.eq {f g : Failure} (h : Failure.Told (fun c x d y => c = d ∧ x = y) f g) :
    f = g := by
  cases h with
  | edge => rfl
  | exhausted => rfl
  | unknown h =>
    obtain ⟨rfl, rfl⟩ := h
    rfl

theorem Effect.Alike.imp {F G : Failure → Failure → Prop} {S : State → State → Prop} {e e' : Effect}
    (h : Effect.Alike F S e e') (hFG : ∀ f g, F f g → G f g) : Effect.Alike G S e e' := by
  cases h with
  | done hs => exact .done hs
  | failed hf hs => exact .failed (hFG _ _ hf) hs

theorem Effect.Alike.symm {F : Failure → Failure → Prop} {e e' : Effect}
    (h : Effect.Alike F State.Like e e') : Effect.Alike (fun g f => F f g) State.Like e' e := by
  cases h with
  | done hs => exact .done hs.symm
  | failed hf hs => exact .failed hf hs.symm

/-- Programs that differ in their commands only match each other, whatever failures are told alike. -/
theorem Program.Related.matches {R : Value → Option Int → Value → Option Int → Prop}
    {F : Failure → Failure → Prop} {p q : List Node} (h : Program.Related R p q)
    (hF : ∀ f g, Failure.Told R f g → F f g) :
    Program.Matched F p q ∧ Program.Matched (fun g f => F f g) q p := by
  refine ⟨fun hlike hends => ?_, fun hlike hends => ?_⟩
  · obtain ⟨e', hends', halike⟩ := h.matched hlike hends
    exact ⟨e', hends', halike.imp hF⟩
  · obtain ⟨e', hends', halike⟩ := h.symm.matched hlike hends
    exact ⟨e', hends', halike.imp fun f g hfg => hF g f hfg.symm⟩

/-- A program matches itself. -/
theorem Program.Matched.refl (p : List Node) : Program.Matched Eq p p :=
  ((Program.Related.refl (fun _ _ => ⟨rfl, rfl⟩) p).matches fun _ _ => Failure.Told.eq).1

/-- A node matches itself. -/
theorem Node.Matched.refl (n : Node) : Node.Matched Eq n n := by
  intro s t e hlike h
  obtain ⟨e', hends, halike⟩ := Program.Matched.refl [n] hlike (Program.ends_singleton_iff.2 h)
  exact ⟨e', Program.ends_singleton_iff.1 hends, halike⟩

/-! ## Both ways -/

/-- What either program comes to from its state, the other does from the other state. -/
structure Program.Agree (F : Failure → Failure → Prop) (p : List Node) (s : State) (q : List Node)
    (t : State) : Prop where
  /-- The second does what the first does. -/
  forward : ∀ e, Program.Ends p s e → ∃ e', Program.Ends q t e' ∧ Effect.Alike F State.Like e e'
  /-- The first does what the second does. -/
  backward : ∀ e', Program.Ends q t e' → ∃ e, Program.Ends p s e ∧ Effect.Alike F State.Like e e'

namespace Program.Agree

variable {F : Failure → Failure → Prop} {p q : List Node} {s t : State}

/-- Programs agree from states that are alike if either matches the other. -/
theorem of_matched (h : Program.Matched F p q) (h' : Program.Matched (fun g f => F f g) q p)
    (hlike : s.Like t) : Program.Agree F p s q t := by
  refine ⟨fun e he => h hlike he, fun e' he' => ?_⟩
  obtain ⟨e, he, halike⟩ := h' hlike.symm he'
  exact ⟨e, he, halike.symm⟩

theorem imp {G : Failure → Failure → Prop} (h : Program.Agree F p s q t)
    (hFG : ∀ f g, F f g → G f g) : Program.Agree G p s q t := by
  refine ⟨fun e he => ?_, fun e' he' => ?_⟩
  · obtain ⟨e', he', halike⟩ := h.forward e he
    exact ⟨e', he', halike.imp hFG⟩
  · obtain ⟨e, he, halike⟩ := h.backward e' he'
    exact ⟨e, he, halike.imp hFG⟩

/-- Programs that agree never end together. -/
theorem endless_iff (h : Program.Agree F p s q t) :
    (Machine.start p s).Endless ↔ (Machine.start q t).Endless := by
  rw [Program.endless_iff, Program.endless_iff]
  constructor
  · intro hp e' he'
    obtain ⟨e, he, -⟩ := h.backward e' he'
    exact hp e he
  · intro hq e he
    obtain ⟨e', he', -⟩ := h.forward e he
    exact hq e' he'

end Program.Agree

/-! ## Results -/

theorem Failure.undefined_ne_unfinished (code position : Value) :
    Failure.undefined code position ≠ .unfinished := by
  intro h
  unfold Failure.undefined Failure.ofCommand at h
  split at h
  · split at h
    · cases h
    · split at h
      · split at h <;> cases h
      · cases h
  · cases h

/-- No command is refused for the lack of a budget. -/
theorem Refused.ne_unfinished {code : Value} {position : Option Int} {s : State} {f : Failure}
    (h : Refused code position s f) : f ≠ .unfinished := by
  cases h with
  | edge => exact fun h => nomatch h
  | exhausted => exact fun h => nomatch h
  | unknown => exact Failure.undefined_ne_unfinished _ _

/-- Nothing that a machine ends in is for the lack of a budget. -/
theorem Machine.EndsIn.result_ne_unfinished {m : Machine} {e : Effect} (h : m.EndsIn e) :
    e.ending.result ≠ .error .unfinished := by
  intro hresult
  obtain ⟨n, hn⟩ := h
  cases e with
  | done s => cases hresult
  | failed f s =>
    obtain ⟨_, _, -, -, hlast⟩ := Machine.exists_last_move hn
    obtain ⟨_, _, -, -, hrefused⟩ := Machine.move_eq_failed_iff.1 hlast
    exact hrefused.ne_unfinished (Except.error.inj hresult)

namespace Program

/-- With enough budget the run of a program on some input gives a result. -/
def Returns (p : Program) (chunk : Chunk) (input : List UInt8) (r : Except Failure (List UInt8)) :
    Prop :=
  r ≠ .error .unfinished ∧ ∃ n, (p.run n chunk input).result = r

variable {p q : Program} {chunk : Chunk} {input : List UInt8} {r : Except Failure (List UInt8)}

/-- What a run gives is what its outcome gives. -/
theorem returns_iff : p.Returns chunk input r ↔
    ∃ e, Program.Ends p (State.initial chunk input) e ∧ e.ending.result = r := by
  constructor
  · rintro ⟨hr, n, hn⟩
    cases hrun : p.run n chunk input with
    | finished s => exact ⟨.done s, endsIn_iff.1 ⟨n, hrun⟩, by rw [← hn, hrun]; rfl⟩
    | failed f s => exact ⟨.failed f s, endsIn_iff.1 ⟨n, hrun⟩, by rw [← hn, hrun]; rfl⟩
    | unfinished m =>
      rw [hrun] at hn
      exact absurd hn.symm hr
  · rintro ⟨e, he, hresult⟩
    refine ⟨hresult ▸ he.endsIn.result_ne_unfinished, ?_⟩
    obtain ⟨n, hn⟩ := he.endsIn
    exact ⟨n, (congrArg Ending.result hn).trans hresult⟩

/-- A run never ends exactly if it uses every budget up. -/
theorem endless_iff_unfinished : (Machine.start p (State.initial chunk input)).Endless ↔
    ∀ n, (p.run n chunk input).result = .error .unfinished := by
  constructor
  · intro h n
    obtain ⟨m, hm⟩ := h n
    exact congrArg Ending.result hm
  · intro h
    rw [endless_iff]
    intro e he
    obtain ⟨hr, n, hn⟩ := returns_iff.2 ⟨e, he, rfl⟩
    exact hr (hn.symm.trans (h n))

/-- Programs that agree give results that are alike. -/
theorem Agree.returns_iff {φ : Failure → Failure}
    (h : Program.Agree (fun f g => g = φ f) p (State.initial chunk input) q (State.initial chunk input)) :
    q.Returns chunk input r ↔ ∃ r', p.Returns chunk input r' ∧ r = r'.mapError φ := by
  have hresult : ∀ {e e' : Effect}, Effect.Alike (fun f g => g = φ f) State.Like e e' →
      e'.ending.result = e.ending.result.mapError φ := by
    intro e e' halike
    cases halike with
    | done hlike => exact congrArg (fun o => Except.ok o.toList) hlike.output.symm
    | failed hf _ => exact congrArg Except.error hf
  rw [Program.returns_iff]
  constructor
  · rintro ⟨e', he', rfl⟩
    obtain ⟨e, he, halike⟩ := h.backward e' he'
    exact ⟨e.ending.result, Program.returns_iff.2 ⟨e, he, rfl⟩, hresult halike⟩
  · rintro ⟨_, hp, rfl⟩
    obtain ⟨e, he, rfl⟩ := Program.returns_iff.1 hp
    obtain ⟨e', he', halike⟩ := h.forward e he
    exact ⟨e', he', hresult halike⟩

end Program

end TapeLang
