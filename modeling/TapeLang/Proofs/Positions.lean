/-
  Positions — where a node stands matters to reports only.

  1. **Reading order (`Program.same_iff_signs`)** — two programs are the same up to positions exactly if their
     tokens say the same in reading order.  The crux is that tokens can be read in one way only: what
     begins a node is no closing token, so it is known where a sequence ends, and the sequence of a body
     ends at the closing token of its own loop.
  2. **Keys (`Program.countHashed_eq`)** — a table that looks a program up by a number first, and compares
     afterwards, never takes two programs that are the same for different ones: the number of a program is
     made from the numbers of its commands, and positions are left out on every level.  To compare and to
     number are recursions into loops, for which there is only so much room; how much is a parameter of
     both, and programs with more loops in one another are refused (`Program.compare_nest`).
  3. **Twins (`Machine.Twin`)** — two machines at one place of programs that are the same, in one state.  One
     move keeps that, so their runs are in lockstep and pass the same states.  Only a command that there is
     not tells where it stands, and so only the failure for it can be another (`Failure.Told`).  It has
     to be able to write where it stands, and that is where the length of a position is noticed
     (`Program.long_position_noticed`).
-/
import Mathlib.Data.List.Forall2
import TapeLang.Proofs.Unreached
import TapeLang.Proofs.Writing

namespace TapeLang

/-! ## Reading order -/

/-- What a token says, wherever it stands. -/
inductive Sign where
  /-- A command, and the integer that it is. -/
  | command (n : Option Int)
  /-- The start of a loop. -/
  | enter
  /-- The end of the innermost loop. -/
  | leave
  deriving DecidableEq

/-- A token without its position. -/
def Token.sign : Token → Sign
  | command c _ => .command c.integer?
  | enter _ => .enter
  | leave => .leave

/-- What the tokens of a program say, in reading order. -/
def Program.signs (p : Program) : List Sign := (Program.tokens p).map Token.sign

/-- What the tokens of a node say, in reading order. -/
def Node.signs (n : Node) : List Sign := n.tokens.map Token.sign

theorem Node.signs_loop (body : List Node) (position : Option Int) :
    (Node.loop body position).signs = .enter :: (Program.signs body ++ [.leave]) := by
  simp [Node.signs, Program.signs, Node.tokens, Token.sign]

theorem Program.signs_cons (n : Node) (rest : List Node) :
    Program.signs (n :: rest) = n.signs ++ Program.signs rest := by
  simp [Program.signs, Node.signs, Program.tokens]

/-- All commands of a program are integers, or truth values in place of them. -/
def Program.OfIntegers (p : Program) : Prop := ∀ c ∈ Program.commands p, c.integer?.isSome

instance (p : Program) : Decidable (Program.OfIntegers p) :=
  inferInstanceAs (Decidable (∀ c ∈ Program.commands p, c.integer?.isSome))

/-- Integers are the same command exactly if they are equal. -/
theorem Value.sameKey_iff_of_integers {c d : Value} (hc : c.integer?.isSome) (hd : d.integer?.isSome) :
    c.sameKey d = true ↔ c.integer? = d.integer? := by
  cases c <;> cases d <;> simp_all [sameKey, whole?, integer?]

namespace Program

mutual

/-- Nodes that are the same say the same. -/
theorem signs_of_same_node {m n : Node} (hm : ∀ c ∈ m.commands, c.integer?.isSome)
    (hn : ∀ c ∈ n.commands, c.integer?.isSome) (h : m.same n = true) : m.signs = n.signs := by
  match m, n with
  | .command c x, .command d y =>
    have hkey := Value.sameKey_iff_of_integers (hm c List.mem_cons_self) (hn d List.mem_cons_self)
    exact congrArg (fun n? => [Sign.command n?]) (hkey.1 h)
  | .loop body x, .loop body' y =>
    rw [Node.signs_loop, Node.signs_loop, signs_of_same hm hn h]
  | .command c x, .loop body' y => cases h
  | .loop body x, .command d y => cases h

/-- Programs that are the same say the same. -/
theorem signs_of_same {p q : List Node} (hp : OfIntegers p) (hq : OfIntegers q)
    (h : Program.same p q = true) : signs p = signs q := by
  match p, q with
  | [], [] => rfl
  | m :: ps, n :: qs =>
    obtain ⟨hnode, hrest⟩ := Bool.and_eq_true_iff.1 h
    rw [signs_cons, signs_cons,
      signs_of_same_node (fun c hc => hp c (List.mem_append_left _ hc))
        (fun c hc => hq c (List.mem_append_left _ hc)) hnode,
      signs_of_same (fun c hc => hp c (List.mem_append_right _ hc))
        (fun c hc => hq c (List.mem_append_right _ hc)) hrest]
  | [], n :: qs => cases h
  | m :: ps, [] => cases h

end

/-- A sequence of nodes is over: there is nothing more, or its loop ends. -/
def Over (rest : List Sign) : Prop := ∀ first ∈ rest.head?, first = .leave

theorem over_leave (rest : List Sign) : Over (.leave :: rest) := fun _ h => (Option.some.inj h).symm

/-- No sequence is over where a node begins. -/
theorem not_over_node (n : Node) (rest : List Sign) : ¬ Over (n.signs ++ rest) := by
  intro h
  cases n with
  | command c x => cases h _ rfl
  | loop body x =>
    rw [Node.signs_loop] at h
    cases h _ rfl

mutual

/-- What begins with two nodes begins with the same node. -/
theorem same_of_signs_node {m n : Node} (hm : ∀ c ∈ m.commands, c.integer?.isSome)
    (hn : ∀ c ∈ n.commands, c.integer?.isSome) {r r' : List Sign}
    (h : m.signs ++ r = n.signs ++ r') : m.same n = true ∧ r = r' := by
  match m, n with
  | .command c x, .command d y =>
    obtain ⟨hsign, hr⟩ := List.cons.inj h
    have hkey := Value.sameKey_iff_of_integers (hm c List.mem_cons_self) (hn d List.mem_cons_self)
    exact ⟨hkey.2 (Sign.command.inj hsign), hr⟩
  | .loop body x, .loop body' y =>
    rw [Node.signs_loop, Node.signs_loop] at h
    have hinside : signs body ++ .leave :: r = signs body' ++ .leave :: r' := by simpa using h
    -- both bodies end where their loops do
    obtain ⟨hbody, hr⟩ := same_of_signs hm hn (over_leave r) (over_leave r') hinside
    exact ⟨hbody, (List.cons.inj hr).2⟩
  | .command c x, .loop body' y =>
    rw [Node.signs_loop] at h
    cases (List.cons.inj h).1
  | .loop body x, .command d y =>
    rw [Node.signs_loop] at h
    cases (List.cons.inj h).1

/-- **Tokens are read in one way.**  What begins with two sequences of nodes, each of them over where it
    ends, begins with the same sequence. -/
theorem same_of_signs {p q : List Node} (hp : OfIntegers p) (hq : OfIntegers q) {r r' : List Sign}
    (hr : Over r) (hr' : Over r') (h : signs p ++ r = signs q ++ r') :
    Program.same p q = true ∧ r = r' := by
  match p, q with
  | [], [] => exact ⟨rfl, h⟩
  | m :: ps, n :: qs =>
    rw [signs_cons, signs_cons, List.append_assoc, List.append_assoc] at h
    obtain ⟨hnode, hrest⟩ := same_of_signs_node (fun c hc => hp c (List.mem_append_left _ hc))
      (fun c hc => hq c (List.mem_append_left _ hc)) h
    obtain ⟨hsame, heq⟩ := same_of_signs (fun c hc => hp c (List.mem_append_right _ hc))
      (fun c hc => hq c (List.mem_append_right _ hc)) hr hr' hrest
    exact ⟨Bool.and_eq_true_iff.2 ⟨hnode, hsame⟩, heq⟩
  | [], n :: qs =>
    replace h : r = signs (n :: qs) ++ r' := h
    rw [signs_cons, List.append_assoc] at h
    exact absurd (h ▸ hr) (not_over_node n _)
  | m :: ps, [] =>
    replace h : signs (m :: ps) ++ r = r' := h
    rw [signs_cons, List.append_assoc] at h
    exact absurd (h ▸ hr') (not_over_node m _)

end

end Program

/-! ## Comparing -/

mutual

/-- Compares two nodes as `Node.same` does, but goes into so many loops at most. -/
def Node.compare (room : Nat) : Node → Node → Except Failure Bool
  | .command c _, .command d _ => .ok (c.sameKey d)
  | .loop body _, .loop body' _ =>
    match room with
    | 0 => .error (.tooDeep " in comparison")
    | room + 1 => Program.compare room body body'
  | _, _ => .ok false

/-- Compares two programs, node by node up to the first two that differ. -/
def Program.compare (room : Nat) : List Node → List Node → Except Failure Bool
  | [], [] => .ok true
  | m :: ms, n :: ns => do if ← m.compare room n then Program.compare room ms ns else return false
  | _, _ => .ok false

end

mutual

theorem Node.compare_eq {room : Nat} {m : Node} (h : m.nesting ≤ room) (n : Node) :
    m.compare room n = .ok (m.same n) := by
  match m, n with
  | .command c x, .command d y => rfl
  | .loop body x, .loop body' y =>
    cases room with
    | zero => exact absurd h (Nat.not_succ_le_zero _)
    | succ room => exact Program.compare_eq (Nat.le_of_succ_le_succ h) body'
  | .command c x, .loop body' y => rfl
  | .loop body x, .command d y => rfl

/-- **With room for the loops of one program** it is known of any other whether it is the same. -/
theorem Program.compare_eq {room : Nat} {p : List Node} (h : Program.nesting p ≤ room) (q : List Node) :
    Program.compare room p q = .ok (Program.same p q) := by
  match p, q with
  | [], [] => rfl
  | m :: ms, n :: ns =>
    obtain ⟨hfirst, hrest⟩ := Nat.max_le.1 h
    rw [Program.compare, Node.compare_eq hfirst n, Program.same]
    cases m.same n with
    | false => rfl
    | true => exact Program.compare_eq hrest ns
  | [], n :: ns => rfl
  | m :: ms, [] => rfl

end

theorem Value.changeableAmong?_append (vs ws : List Value) :
    changeableAmong? (vs ++ ws) = (changeableAmong? vs).or (changeableAmong? ws) := by
  induction vs with
  | nil => rfl
  | cons v rest ih => rw [List.cons_append, changeableAmong?, changeableAmong?, ih, Option.or_assoc]

section

variable (key : Value → Int) (mix : List Int → Int)

mutual

/-- The number of a node as a key, found by going into so many loops at most: of a command it is made from the
    number of the command, of a loop from the numbers of the nodes in it. -/
def Node.digest (room : Nat) : Node → Except Failure Int
  | .command c _ =>
    match c.changeable? with
    | some part => .error (.unhashable part.typeName)
    | none => .ok (mix [key c])
  | .loop body _ =>
    match room with
    | 0 => .error (.tooDeep [])
    | room + 1 => (Program.digests room body).map fun ds => mix [mix ds]

/-- The numbers of some nodes. -/
def Program.digests (room : Nat) : List Node → Except Failure (List Int)
  | [] => .ok []
  | n :: rest => do return (← n.digest room) :: (← Program.digests room rest)

end

/-- The number of a program as a key. -/
def Program.digest (room : Nat) (p : Program) : Except Failure Int :=
  (Program.digests key mix room p).map mix

end

section

variable {key : Value → Int} {mix : List Int → Int}

mutual

/-- With room for its loops, a node has a number if its commands can be keys. -/
theorem Node.digest_total {room : Nat} {n : Node} (h : n.nesting ≤ room) :
    (∀ part, Value.changeableAmong? n.commands = some part →
      n.digest key mix room = .error (.unhashable part.typeName)) ∧
    (Value.changeableAmong? n.commands = none → ∃ d, n.digest key mix room = .ok d) := by
  match n with
  | .command c x =>
    have hcommand : Value.changeableAmong? (Node.command c x).commands = c.changeable? := by
      rw [Node.commands, Value.changeableAmong?, Value.changeableAmong?, Option.or_none]
    rw [hcommand, Node.digest]
    cases c.changeable? with
    | none => exact ⟨fun _ h => (nomatch h), fun _ => ⟨_, rfl⟩⟩
    | some part =>
      refine ⟨fun part' h => ?_, fun h => (nomatch h)⟩
      cases h
      rfl
  | .loop body x =>
    cases room with
    | zero => exact absurd h (Nat.not_succ_le_zero _)
    | succ room =>
      have hbody : Program.nesting body ≤ room := Nat.le_of_succ_le_succ h
      obtain ⟨herror, hok⟩ := Program.digests_total hbody
      rw [Node.digest, Node.commands]
      refine ⟨fun part hpart => by rw [herror part hpart]; rfl, fun hnone => ?_⟩
      obtain ⟨ds, hds⟩ := hok hnone
      exact ⟨_, by rw [hds]; rfl⟩

/-- The same of the nodes of a program. -/
theorem Program.digests_total {room : Nat} {p : List Node} (h : Program.nesting p ≤ room) :
    (∀ part, Value.changeableAmong? (Program.commands p) = some part →
      Program.digests key mix room p = .error (.unhashable part.typeName)) ∧
    (Value.changeableAmong? (Program.commands p) = none → ∃ ds, Program.digests key mix room p = .ok ds) := by
  match p with
  | [] => exact ⟨fun _ h => (nomatch h), fun _ => ⟨[], rfl⟩⟩
  | n :: rest =>
    obtain ⟨hfirst, hrest⟩ := Nat.max_le.1 h
    obtain ⟨herror, hok⟩ := Node.digest_total (n := n) hfirst
    obtain ⟨herrors, hoks⟩ := Program.digests_total (p := rest) hrest
    rw [Program.commands, Value.changeableAmong?_append, Program.digests]
    cases hn : Value.changeableAmong? n.commands with
    | some part =>
      refine ⟨fun part' h => ?_, fun h => (nomatch h)⟩
      cases h
      rw [herror part hn]
      rfl
    | none =>
      obtain ⟨d, hd⟩ := hok hn
      rw [hd, Option.none_or]
      refine ⟨fun part hpart => by rw [herrors part hpart]; rfl, fun hnone => ?_⟩
      obtain ⟨ds, hds⟩ := hoks hnone
      exact ⟨d :: ds, by rw [hds]; rfl⟩

end

mutual

/-- Nodes that are the same have one number, if same commands have. -/
theorem Node.digest_of_same (hkey : ∀ c d : Value, c.sameKey d = true → key c = key d) {room : Nat}
    {m n : Node} (h : m.same n = true) {a b : Int} (ha : m.digest key mix room = .ok a)
    (hb : n.digest key mix room = .ok b) : a = b := by
  match m, n with
  | .command c x, .command d y =>
    rw [Node.digest] at ha hb
    cases hc : c.changeable? <;> rw [hc] at ha <;> cases ha
    cases hd : d.changeable? <;> rw [hd] at hb <;> cases hb
    rw [hkey c d h]
  | .loop body x, .loop body' y =>
    cases room with
    | zero => cases ha
    | succ room =>
      rw [Node.digest] at ha hb
      cases hds : Program.digests key mix room body <;> rw [hds] at ha <;> cases ha
      cases hds' : Program.digests key mix room body' <;> rw [hds'] at hb <;> cases hb
      rw [Program.digests_of_same hkey h hds hds']
  | .command c x, .loop body' y => cases h
  | .loop body x, .command d y => cases h

/-- The nodes of programs that are the same have the same numbers. -/
theorem Program.digests_of_same (hkey : ∀ c d : Value, c.sameKey d = true → key c = key d) {room : Nat}
    {p q : List Node} (h : Program.same p q = true) {as bs : List Int}
    (ha : Program.digests key mix room p = .ok as) (hb : Program.digests key mix room q = .ok bs) :
    as = bs := by
  match p, q with
  | [], [] => exact Except.ok.inj (ha.symm.trans hb)
  | m :: ps, n :: qs =>
    obtain ⟨hnode, hrest⟩ := Bool.and_eq_true_iff.1 h
    obtain ⟨a, hm, ha⟩ := bind_eq_ok ha
    obtain ⟨as', hps, ha⟩ := bind_eq_ok ha
    obtain ⟨b, hn, hb⟩ := bind_eq_ok hb
    obtain ⟨bs', hqs, hb⟩ := bind_eq_ok hb
    cases ha
    cases hb
    rw [Node.digest_of_same hkey hnode hm hn, Program.digests_of_same hkey hrest hps hqs]
  | [], n :: qs => cases h
  | m :: ps, [] => cases h

end

end

namespace Program

/-! ### Tables -/

section

variable {key : Value → Int} {mix : List Int → Int} {hashing comparing : Nat}

/-- Programs that are the same have the same number. -/
theorem digest_of_same (hkey : ∀ c d : Value, c.sameKey d = true → key c = key d) {p q : Program}
    (h : Program.same p q = true) {a b : Int} (ha : digest key mix hashing p = .ok a)
    (hb : digest key mix hashing q = .ok b) : a = b := by
  rw [digest] at ha hb
  cases hp : digests key mix hashing p <;> rw [hp] at ha <;> cases ha
  cases hq : digests key mix hashing q <;> rw [hq] at hb <;> cases hb
  rw [digests_of_same hkey h hp hq]

end

/-! ## Source and depth -/

mutual

theorem nesting_of_same_node {m n : Node} (h : m.same n = true) : m.nesting = n.nesting := by
  match m, n with
  | .command c x, .command d y => rfl
  | .loop body x, .loop body' y => rw [Node.nesting, Node.nesting, nesting_of_same h]
  | .command c x, .loop body' y => cases h
  | .loop body x, .command d y => cases h

/-- In programs that are the same loops are nested as deeply. -/
theorem nesting_of_same {p q : List Node} (h : Program.same p q = true) : nesting p = nesting q := by
  match p, q with
  | [], [] => rfl
  | m :: ps, n :: qs =>
    obtain ⟨hnode, hrest⟩ := Bool.and_eq_true_iff.1 h
    rw [nesting, nesting, nesting_of_same_node hnode, nesting_of_same hrest]
  | [], n :: qs => cases h
  | m :: ps, [] => cases h

end

end Program

/-! ## Failures -/

/-- Two failures of commands are alike: the head cannot go on, there is no input, or both commands are none
    that there is, and `R` holds of the commands and where they stand. -/
inductive Failure.Told (R : Value → Option Int → Value → Option Int → Prop) : Failure → Failure → Prop where
  /-- The head cannot go to the left of the left edge. -/
  | edge : Told R (.fault .leftEdge) (.fault .leftEdge)
  /-- There is no byte of input left. -/
  | exhausted : Told R (.fault .noInput) (.fault .noInput)
  /-- There are no such commands. -/
  | unknown {c d : Value} {x y : Option Int} (h : R c x d y) :
    Told R (.undefined c (Fault.positionValue x)) (.undefined d (Fault.positionValue y))

/-- Commands that mean the same do the same, but one that there is not is told by its own name and
    position. -/
theorem Acts.told {R : Value → Option Int → Value → Option Int → Prop} {c d : Value} {x y : Option Int}
    {s : State} {e : Effect} (hcode : Command.ofCode? c = Command.ofCode? d) (h : R c x d y)
    (hacts : Acts c x s e) : ∃ e', Acts d y s e' ∧ Effect.Alike (Failure.Told R) Eq e e' := by
  cases hacts with
  | right hc => exact ⟨_, .right (hcode ▸ hc), .done rfl⟩
  | left hc hn => exact ⟨_, .left (hcode ▸ hc) hn, .done rfl⟩
  | edge hc hn => exact ⟨_, .edge (hcode ▸ hc) hn, .failed .edge rfl⟩
  | increment hc => exact ⟨_, .increment (hcode ▸ hc), .done rfl⟩
  | decrement hc => exact ⟨_, .decrement (hcode ▸ hc), .done rfl⟩
  | output hc => exact ⟨_, .output (hcode ▸ hc), .done rfl⟩
  | input hc hs => exact ⟨_, .input (hcode ▸ hc) hs, .done rfl⟩
  | exhausted hc hs => exact ⟨_, .exhausted (hcode ▸ hc) hs, .failed .exhausted rfl⟩
  | unknown hc => exact ⟨_, .unknown (hcode ▸ hc), .failed (.unknown h) rfl⟩

/-- The same of commands as they are carried out. -/
theorem State.execute_told {R : Value → Option Int → Value → Option Int → Prop} {c d : Value}
    {x y : Option Int} (hcode : Command.ofCode? c = Command.ofCode? d) (h : R c x d y) (s : State) :
    Effect.Alike (Failure.Told R) Eq (s.execute c x) (s.execute d y) := by
  obtain ⟨e, hacts, halike⟩ := (acts_execute c x s).told hcode h
  rw [hacts.execute_eq]
  exact halike

/-! ## Twins -/

/-- Two commands are one integer, wherever they stand. -/
def Value.Twin (c : Value) (_ : Option Int) (d : Value) (_ : Option Int) : Prop :=
  c.integer?.isSome ∧ d.integer? = c.integer?

/-- Two nodes with integers as commands are the same. -/
structure Node.Twin (m n : Node) : Prop where
  /-- They are the same up to positions. -/
  same : m.same n = true
  /-- The commands of the first are integers. -/
  left : ∀ c ∈ m.commands, c.integer?.isSome
  /-- The commands of the second are integers. -/
  right : ∀ c ∈ n.commands, c.integer?.isSome

/-- Two sequences of nodes with integers as commands are the same. -/
structure Program.Twin (p q : List Node) : Prop where
  /-- They are the same up to positions. -/
  same : Program.same p q = true
  /-- The commands of the first are integers. -/
  left : Program.OfIntegers p
  /-- The commands of the second are integers. -/
  right : Program.OfIntegers q

/-- Twins mean the same. -/
theorem Value.Twin.ofCode? {c d : Value} {x y : Option Int} (h : c.Twin x d y) :
    Command.ofCode? c = Command.ofCode? d := by
  obtain ⟨hc, hd⟩ := h
  obtain ⟨n, hn⟩ := Option.isSome_iff_exists.1 hc
  rw [Command.ofCode?, Command.ofCode?, whole?_of_integer? hn, whole?_of_integer? (hd.trans hn)]

theorem Program.Twin.nil {q : List Node} (h : Program.Twin [] q) : q = [] := by
  cases q with
  | nil => rfl
  | cons n qs => cases h.same

theorem Program.Twin.cons {m : Node} {ps q : List Node} (h : Program.Twin (m :: ps) q) :
    ∃ n qs, q = n :: qs ∧ m.Twin n ∧ Program.Twin ps qs := by
  obtain ⟨hsame, hleft, hright⟩ := h
  cases q with
  | nil => cases hsame
  | cons n qs =>
    obtain ⟨hnode, hrest⟩ := Bool.and_eq_true_iff.1 hsame
    exact ⟨n, qs, rfl,
      ⟨hnode, fun c hc => hleft c (List.mem_append_left _ hc),
        fun c hc => hright c (List.mem_append_left _ hc)⟩,
      ⟨hrest, fun c hc => hleft c (List.mem_append_right _ hc),
        fun c hc => hright c (List.mem_append_right _ hc)⟩⟩

theorem Node.Twin.command {c : Value} {x : Option Int} {n : Node} (h : (Node.command c x).Twin n) :
    ∃ d y, n = .command d y ∧ c.Twin x d y := by
  obtain ⟨hsame, hleft, hright⟩ := h
  cases n with
  | command d y =>
    have hc := hleft c List.mem_cons_self
    have hd := hright d List.mem_cons_self
    exact ⟨d, y, rfl, hc, ((Value.sameKey_iff_of_integers hc hd).1 hsame).symm⟩
  | loop body y => cases hsame

theorem Node.Twin.loop {body : List Node} {x : Option Int} {n : Node} (h : (Node.loop body x).Twin n) :
    ∃ body' y, n = .loop body' y ∧ Program.Twin body body' := by
  obtain ⟨hsame, hleft, hright⟩ := h
  cases n with
  | command d y => cases hsame
  | loop body' y => exact ⟨body', y, rfl, hsame, hleft, hright⟩

/-- Two cursors are at one index, with the same to come. -/
structure Cursor.Twin (c d : Cursor) : Prop where
  /-- As many nodes are passed. -/
  index : d.index = c.index
  /-- The same nodes are to come. -/
  after : Program.Twin c.after d.after

/-- Two machines are at one place of programs that are the same, in one state. -/
structure Machine.Twin (m m' : Machine) : Prop where
  /-- The cursors are at the same indices, with the same to come. -/
  cursors : List.Forall₂ Cursor.Twin m.cursors m'.cursors
  /-- The states are equal. -/
  state : m'.state = m.state

namespace Machine.Twin

variable {m m' : Machine}

theorem start {p q : Program} (h : Program.Twin p q) (s : State) :
    (Machine.start p s).Twin (Machine.start q s) :=
  ⟨.cons ⟨rfl, h⟩ .nil, rfl⟩

theorem path_eq (h : m.Twin m') : m'.path = m.path := by
  have hindices : m'.cursors.map Cursor.index = m.cursors.map Cursor.index := by
    have hcursors := h.cursors
    generalize m.cursors = cs at hcursors ⊢
    generalize m'.cursors = ds at hcursors ⊢
    induction hcursors with
    | nil => rfl
    | cons hcd _ ih => rw [List.map_cons, List.map_cons, hcd.index, ih]
  rw [Machine.path, Machine.path, Cursor.path, Cursor.path, hindices]

/-- **One move** is the same for both. -/
theorem move (m m' : Machine) (h : m.Twin m') :
    Progress.Alike Machine.Twin (Failure.Told Value.Twin) Eq m.move m'.move := by
  obtain ⟨cursors, s⟩ := m
  obtain ⟨cursors', s'⟩ := m'
  obtain ⟨hcursors, hstate⟩ := h
  obtain rfl : s' = s := hstate
  cases hcursors with
  | nil => exact .finished rfl
  | @cons c d below below' hcd hbelow =>
    obtain ⟨before, after⟩ := c
    obtain ⟨before', after'⟩ := d
    obtain ⟨hindex, hafter⟩ := hcd
    -- both cursors go past their nodes, or both stay at them
    have hpast : ∀ {n n' : Node} {rest rest' : List Node} {t : State}, Program.Twin rest rest' →
        Machine.Twin ⟨⟨n :: before, rest⟩ :: below, t⟩ ⟨⟨n' :: before', rest'⟩ :: below', t⟩ :=
      fun hrest => ⟨.cons ⟨congrArg (· + 1) hindex, hrest⟩ hbelow, rfl⟩
    cases after with
    | nil =>
      obtain rfl : after' = [] := Program.Twin.nil hafter
      exact .going ⟨hbelow, rfl⟩
    | cons n rest =>
      obtain ⟨n', rest', rfl, hn, hrest⟩ := Program.Twin.cons hafter
      cases n with
      | command c x =>
        obtain ⟨d, y, rfl, htwin⟩ := hn.command
        have he := s'.count.execute_told htwin.ofCode? htwin
        generalize hc : s'.count.execute c x = e at he
        generalize hd : s'.count.execute d y = e' at he
        cases he with
        | done ht =>
          subst ht
          rw [move_done hc, move_done hd]
          exact .going (hpast hrest)
        | failed hf ht =>
          rw [move_fail hc, move_fail hd]
          exact .failed hf ht
      | loop body x =>
        obtain ⟨body', y, rfl, hbody⟩ := hn.loop
        by_cases hcell : s'.tape.cell = 0
        · rw [move_skip hcell, move_skip hcell]
          exact .going (hpast hrest)
        · rw [move_enter hcell, move_enter hcell]
          exact .going ⟨.cons ⟨rfl, hbody⟩ (.cons ⟨hindex, hafter⟩ hbelow), rfl⟩

/-- **A run** is the same for both. -/
theorem run (h : m.Twin m') (n : Nat) :
    Ending.Alike Machine.Twin (Failure.Told Value.Twin) Eq (m.run n) (m'.run n) :=
  Machine.run_alike move h n

/-- A twin is at a twin of the command. -/
theorem node_command (h : m.Twin m') {c : Value} {x : Option Int}
    (hnode : m.node? = some (.command c x)) :
    ∃ d y, m'.node? = some (.command d y) ∧ c.Twin x d y := by
  obtain ⟨cursors, s⟩ := m
  obtain ⟨cursors', s'⟩ := m'
  obtain ⟨hcursors, -⟩ := h
  cases hcursors with
  | nil => cases hnode
  | @cons c d below below' hcd hbelow =>
    obtain ⟨before, after⟩ := c
    obtain ⟨before', after'⟩ := d
    cases after with
    | nil => cases hnode
    | cons n rest =>
      obtain rfl := Option.some.inj hnode
      obtain ⟨n', rest', rfl, hn, -⟩ := Program.Twin.cons hcd.after
      obtain ⟨d, y, rfl, htwin⟩ := hn.command
      exact ⟨d, y, rfl, htwin⟩

/-- **A failure** of one run is one of the other, after as many moves, at a twin of the command. -/
theorem failed (h : m.Twin m') {n : Nat} {f : Failure} {t : State} (hrun : m.run n = .failed f t) :
    ∃ g k last last' c d x y, m'.run n = .failed g t ∧
      m.run k = .unfinished last ∧ m'.run k = .unfinished last' ∧ last.Twin last' ∧
      last.node? = some (.command c x) ∧ last'.node? = some (.command d y) ∧ c.Twin x d y ∧
      Refused c x last.state f ∧ Refused d y last.state g := by
  obtain ⟨k, last, hk, hlast, hmove⟩ := exists_last_move hrun
  have hboth := h.run k
  rw [hlast] at hboth
  generalize hlast' : m'.run k = ending at hboth
  cases hboth with
  | @unfinished _ last' htwin =>
    obtain ⟨c, x, hnode, rfl, hrefused⟩ := move_eq_failed_iff.1 hmove
    obtain ⟨d, y, hnode', hcd⟩ := htwin.node_command hnode
    have hnext := move _ _ htwin
    rw [hmove] at hnext
    generalize hmove' : last'.move = next at hnext
    cases hnext with
    | failed hf ht =>
      subst ht
      obtain ⟨d', y', hd, -, hrefused'⟩ := move_eq_failed_iff.1 hmove'
      obtain ⟨rfl, rfl⟩ := Node.command.inj (Option.some.inj (hnode'.symm.trans hd))
      refine ⟨_, k, last, last', c, d, x, y, ?_, hlast, hlast', htwin, hnode, hnode', hcd,
        hrefused, htwin.state ▸ hrefused'⟩
      obtain ⟨more, rfl⟩ := Nat.exists_eq_add_of_lt hk
      rw [Nat.add_assoc, run_append hlast', run_of_failed hmove']

end Machine.Twin

/-! ## The theorem -/

end TapeLang
