/-
  Unreached — a node that is not reached does not matter.

  Where a node stands in a program is said by its **path**: its index in the outermost sequence, then the
  index in the body of the loop there, and so on inwards.  A `Patch` puts other nodes, any number of any
  kind, in the place of the nodes at some paths.

  The crux is that the indices of the cursors, outermost first, are the path of the node that a machine is
  about to make a step with (`Machine.path`), and that all a machine knows of a program is in what its
  cursors still have before them.  So the cursors of the patched program have before them what is
  patched of what those of the program have (`Cursor.Patched`); a step with a node that is kept is
  the same step for both, and only a step with a node that is not kept could tell them apart.
-/
import TapeLang.Proofs.Run

namespace TapeLang

/-! ## Paths and patches -/

/-- The indices of some cursors, outermost first. -/
def Cursor.path (cs : List Cursor) : List Nat := (cs.map Cursor.index).reverse

theorem Cursor.path_cons (c : Cursor) (below : List Cursor) :
    Cursor.path (c :: below) = Cursor.path below ++ [c.index] := by
  rw [path, List.map_cons, List.reverse_cons]
  rfl

/-- The path of the node that a machine is at. -/
def Machine.path (m : Machine) : List Nat := Cursor.path m.cursors

/-- What stands in the place of the nodes at some paths; the others are kept. -/
abbrev Patch := List Nat → Option Program

mutual

/-- The node at a path, with the nodes inside it patched. -/
def Node.patched (patch : Patch) (path : List Nat) : Node → Node
  | .command code position => .command code position
  | .loop body position => .loop (Program.patchedFrom patch path 0 body) position

/-- Nodes inside the node at a path, the first of them with index `k`, patched. -/
def Program.patchedFrom (patch : Patch) (path : List Nat) (k : Nat) : List Node → List Node
  | [] => []
  | n :: rest =>
    (patch (path ++ [k])).getD [n.patched patch (path ++ [k])] ++
      Program.patchedFrom patch path (k + 1) rest

end

/-- A program patched. -/
def Program.patched (patch : Patch) (p : Program) : Program := Program.patchedFrom patch [] 0 p

/-- A node that is kept stands where it stood. -/
theorem Program.patchedFrom_kept {patch : Patch} {path : List Nat} {k : Nat}
    (h : patch (path ++ [k]) = none) (n : Node) (rest : List Node) :
    Program.patchedFrom patch path k (n :: rest) =
      n.patched patch (path ++ [k]) :: Program.patchedFrom patch path (k + 1) rest := by
  rw [Program.patchedFrom, h]
  rfl

/-! ## Cursors and machines -/

/-- Cursors in a program and in the patched one are at the same path, and the latter have before them what
    is patched of what the former have. -/
inductive Cursor.Patched (patch : Patch) : List Cursor → List Cursor → Prop where
  /-- There are no cursors. -/
  | nil : Patched patch [] []
  /-- The innermost cursors are at one index. -/
  | cons {before before' after after' : List Node} {below below' : List Cursor}
      (hindex : before'.length = before.length)
      (hafter : after' = Program.patchedFrom patch (Cursor.path below) before.length after)
      (hbelow : Patched patch below below') :
      Patched patch (⟨before, after⟩ :: below) (⟨before', after'⟩ :: below')

theorem Cursor.Patched.path_eq {patch : Patch} {cs ds : List Cursor} (h : Cursor.Patched patch cs ds) :
    Cursor.path ds = Cursor.path cs := by
  induction h with
  | nil => rfl
  | cons hindex _ _ ih =>
    rw [path_cons, path_cons, ih, Cursor.index, Cursor.index, hindex]

/-- A machine in a program and one in the patched program are at the same path in the same state. -/
structure Machine.Patched (patch : Patch) (m m' : Machine) : Prop where
  /-- The cursors are at the same path, with the same to come but for the patches. -/
  cursors : Cursor.Patched patch m.cursors m'.cursors
  /-- The states are equal. -/
  state : m'.state = m.state

namespace Machine.Patched

variable {patch : Patch} {m m' : Machine}

theorem start (patch : Patch) (p : Program) (s : State) :
    Machine.Patched patch (Machine.start p s) (Machine.start (p.patched patch) s) :=
  ⟨.cons rfl rfl .nil, rfl⟩

theorem path_eq (h : m.Patched patch m') : m'.path = m.path := h.cursors.path_eq

/-- At a node that is kept the other machine is at that node, patched inside. -/
theorem node_eq (h : m.Patched patch m') (hkept : m.stop? = some m → patch m.path = none) :
    m'.node? = m.node?.map (Node.patched patch m.path) := by
  obtain ⟨cursors, s⟩ := m
  obtain ⟨cursors', s'⟩ := m'
  obtain ⟨hcursors, -⟩ := h
  cases hcursors with
  | nil => rfl
  | @cons before before' after after' below below' hindex hafter hbelow =>
    cases after with
    | nil =>
      subst hafter
      rfl
    | cons n after =>
      have hnone : patch (Cursor.path below ++ [before.length]) = none := by
        have hpath := hkept rfl
        rwa [Machine.path, Cursor.path_cons] at hpath
      rw [Program.patchedFrom_kept hnone] at hafter
      subst hafter
      rw [Machine.path, Cursor.path_cons]
      rfl

/-- **One move** is the same for both, unless it is with a node that is not kept. -/
theorem move (h : m.Patched patch m') (hkept : m.stop? = some m → patch m.path = none) :
    Progress.Alike (Machine.Patched patch) Eq Eq m.move m'.move := by
  obtain ⟨cursors, s⟩ := m
  obtain ⟨cursors', s'⟩ := m'
  obtain ⟨hcursors, hstate⟩ := h
  obtain rfl : s' = s := hstate
  cases hcursors with
  | nil => exact .finished rfl
  | @cons before before' after after' below below' hindex hafter hbelow =>
    cases after with
    | nil =>
      subst hafter
      exact .going ⟨hbelow, rfl⟩
    | cons n after =>
      have hpath : Cursor.path (⟨before, n :: after⟩ :: below) = Cursor.path below ++ [before.length] :=
        Cursor.path_cons _ below
      have hnone : patch (Cursor.path below ++ [before.length]) = none := hpath ▸ hkept rfl
      rw [Program.patchedFrom_kept hnone] at hafter
      subst hafter
      -- both cursors go past the node, or both stay at it
      have hpast : ∀ n', Cursor.Patched patch (⟨n :: before, after⟩ :: below)
          (⟨n' :: before', Program.patchedFrom patch (Cursor.path below) (before.length + 1) after⟩ ::
            below') := fun n' => .cons (congrArg (· + 1) hindex) rfl hbelow
      cases n with
      | command code position =>
        cases he : s'.count.execute code position with
        | done t =>
          rw [move_done he, Node.patched, move_done he]
          exact .going ⟨hpast _, rfl⟩
        | failed f t =>
          rw [move_fail he, Node.patched, move_fail he]
          exact .failed rfl rfl
      | loop body position =>
        by_cases hcell : s'.tape.cell = 0
        · rw [move_skip hcell, Node.patched, move_skip hcell]
          exact .going ⟨hpast _, rfl⟩
        · rw [move_enter hcell, Node.patched, move_enter hcell]
          refine .going ⟨.cons rfl ?_ (.cons hindex ?_ hbelow), rfl⟩
          · rw [hpath]
            rfl
          · rw [Program.patchedFrom_kept hnone, Node.patched]

/-- **A run** is the same for both, as long as its steps are with nodes that are kept. -/
theorem run (h : m.Patched patch m') {l : Nat} (hkept : ∀ stop ∈ m.stops l, patch stop.path = none) :
    Ending.Alike (Machine.Patched patch) Eq Eq (m.run l) (m'.run l) := by
  refine Machine.run_alike_while (fun m m' hm hboth => hboth.move hm) h fun k last hk hrun hstop => ?_
  exact hkept last (mem_stops hk hrun hstop)

end Machine.Patched

/-! ## The theorem -/

/-- **What is not reached does not matter.**  Let a patch keep the nodes that the first `n` steps of a run
    are with.  Then the first `n` steps of the patched program are with the same nodes, but for what is
    patched inside them, and in the same states.  As long as no more than `n` steps are made, both runs are
    after any number of moves at work at the same path in the same state, or both at the end in the same
    state, or both have failed in the same way. -/
theorem Program.unreached_irrelevant {p : Program} {chunk : Chunk} {input : List UInt8} {n : Nat}
    {patch : Patch} (h : ∀ k m, k < n →
      (Machine.start p (State.initial chunk input)).MakesStep k m → patch m.path = none) :
    (∀ k m, k < n → (Machine.start p (State.initial chunk input)).MakesStep k m →
      ∃ m', (Machine.start (p.patched patch) (State.initial chunk input)).MakesStep k m' ∧
        m'.path = m.path ∧ m'.state = m.state ∧
        m'.node? = m.node?.map (Node.patched patch m.path)) ∧
    (∀ l, (p.run l chunk input).state.steps ≤ n →
      Ending.Alike (Machine.Patched patch) Eq Eq (p.run l chunk input)
        ((p.patched patch).run l chunk input)) := by
  have hstart := Machine.Patched.start patch p (State.initial chunk input)
  have hrun : ∀ l, (p.run l chunk input).state.steps ≤ n →
      Ending.Alike (Machine.Patched patch) Eq Eq (p.run l chunk input)
        ((p.patched patch).run l chunk input) := by
    intro l hl
    have hsteps : (p.run l chunk input).state.steps =
        ((Machine.start p (State.initial chunk input)).stops l).length :=
      (Machine.run_steps _ l).trans (Nat.zero_add _)
    refine hstart.run fun stop hstop => ?_
    obtain ⟨k, hk⟩ := List.getElem?_of_mem hstop
    obtain ⟨hlt, -⟩ := List.getElem?_eq_some_iff.1 hk
    exact h k stop (by omega) ⟨l, hk⟩
  refine ⟨?_, hrun⟩
  intro k m hk hstep
  obtain ⟨l, hl, hstop, hcount⟩ := Machine.makesStep_iff.1 hstep
  have hsteps : m.state.steps = k := hcount.trans (Nat.zero_add k)
  have hm : p.run l chunk input = .unfinished m := hl
  have hboth := hrun l (by rw [hm]; exact Nat.le_of_lt (hsteps ▸ hk))
  rw [hm] at hboth
  generalize hm' : (p.patched patch).run l chunk input = ending at hboth
  cases hboth with
  | @unfinished _ m' hpatched =>
    have hnode := hpatched.node_eq fun _ => h k m hk hstep
    obtain ⟨node, hsome, -⟩ := Option.map_eq_some_iff.1 hstop
    rw [hsome] at hnode
    refine ⟨m', ?_, hpatched.path_eq, hpatched.state, by rw [hnode, hsome]⟩
    exact Machine.makesStep_iff.2
      ⟨l, hm', Machine.stop?_of_node hnode, by rw [hpatched.state]; exact hcount⟩

/-- `[x]<y`, which fails at `<` from the left edge. -/
def Program.failingEarly : Program :=
  [.loop [.command (.int 120) (some 1)] (some 0), .command (.int 60) (some 3),
    .command (.int 121) (some 4)]

/-- Puts a loop in the place of `x` and nothing in the place of `y`. -/
def Patch.elsewhere : Patch := fun path =>
  if path = [0, 0] then some [.loop [] none] else if path = [2] then some [] else none

/-- `[x]<y` passes its loop and fails at its second step, and so does `[[]]<`. -/
theorem Program.unreached_irrelevant_at_edge :
    Program.failingEarly.patched .elsewhere =
      [.loop [.loop [] none] (some 0), .command (.int 60) (some 3)] ∧
    (Program.failingEarly.patched .elsewhere).run 2 ⟨1, by decide⟩ [] =
      .failed (.fault .leftEdge) { tape := ⟨⟨1, by decide⟩, #[0], 0⟩, input := [], steps := 2 } := by
  have hrun : Program.failingEarly.run 2 ⟨1, by decide⟩ [] = .failed (.fault .leftEdge)
    { tape := ⟨⟨1, by decide⟩, #[0], 0⟩, input := [], steps := 2 } := rfl
  have hstops : ∀ stop ∈ (Machine.start Program.failingEarly (State.initial ⟨1, by decide⟩ [])).stops 2,
      Patch.elsewhere stop.path = none := by decide
  have hkept : ∀ k m, k < 2 →
      (Machine.start Program.failingEarly (State.initial ⟨1, by decide⟩ [])).MakesStep k m →
      Patch.elsewhere m.path = none := by
    intro k m _ hstep
    rw [Machine.makesStep_iff_of_ended fun _ h => nomatch hrun.symm.trans h] at hstep
    exact hstops m (List.mem_of_getElem? hstep)
  have hboth := (unreached_irrelevant hkept).2 2 (by rw [hrun]; decide)
  rw [hrun] at hboth
  refine ⟨rfl, ?_⟩
  generalize (Program.failingEarly.patched .elsewhere).run 2 ⟨1, by decide⟩ [] = ending at hboth ⊢
  cases hboth with
  | failed hf hs => rw [hf, hs]

end TapeLang
