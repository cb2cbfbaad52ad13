/-
  Joining — a source in the midst of another.

  The reader does not know where a source began, but by the offsets that it writes down.  So it reads a
  balanced source in the midst of another as it reads it alone, only that every position is larger by
  the offset at which the source begins.

  1. **Shifting (`Program.shifted`)** — every position of a tree, on every level, larger by a number.
  2. **The crux (`Program.Placed`)** — the reader in the midst of another source has the levels that it has
     alone, shifted; the outermost of them lies on what was there before, and the brackets that were not
     closed before are behind its own.  Commands, opening and closing brackets keep that.
  3. **Pieces (`Program.readFrom_piece`, `Program.readFrom_loop`)** — so a balanced source adds its nodes to
     the level it is met on, and one in brackets adds a loop.  Behind a balanced source, where nothing is
     open, a reader also fails as it fails alone (`Program.readFrom_placed_error`).
  4. **Bytes (`Program.ofBytes_append`, `Program.readFrom_bracketed`)** — the same of sources of bytes, put
     together from balanced ones.
-/
import TapeLang.Proofs.Writing

namespace TapeLang

open TapeLang.Bracket (Balanced)

/-- A source in brackets. -/
def bracketed (source : List UInt8) : List UInt8 := openByte :: (source ++ [closeByte])

/-! ## Shifting -/

mutual

/-- The node with all positions larger by a number. -/
def Node.shifted (d : Nat) : Node → Node
  | .command code position => .command code (position.map (· + (d : Int)))
  | .loop body position => .loop (Program.shifted d body) (position.map (· + (d : Int)))

/-- The nodes with all positions larger by a number. -/
def Program.shifted (d : Nat) : List Node → List Node
  | [] => []
  | n :: rest => n.shifted d :: Program.shifted d rest

end

/-- The fault, with its position larger by a number. -/
def Fault.shifted (d : Nat) : Fault → Fault
  | .strayClose (.int i) => .strayClose (.int (i + d))
  | .openLoop (.int i) => .openLoop (.int (i + d))
  | f => f

/-- An unclosed bracket is told at its position. -/
theorem Fault.shifted_openLoop (d : Nat) (position : Option Int) :
    (Fault.openLoop (positionValue position)).shifted d =
      .openLoop (positionValue (position.map (· + (d : Int)))) := by
  cases position <;> rfl

namespace Program

theorem shifted_append (d : Nat) (p q : List Node) : shifted d (p ++ q) = shifted d p ++ shifted d q := by
  induction p with
  | nil => rfl
  | cons n rest ih => exact congrArg (n.shifted d :: ·) ih

theorem shifted_reverse (d : Nat) (p : List Node) : shifted d p.reverse = (shifted d p).reverse := by
  induction p with
  | nil => rfl
  | cons n rest ih =>
    rw [List.reverse_cons, shifted_append, ih]
    exact List.reverse_cons.symm

mutual

theorem shifted_zero_node (n : Node) : n.shifted 0 = n := by
  cases n with
  | command code position => cases position <;> simp [Node.shifted]
  | loop body position => cases position <;> simp [Node.shifted, shifted_zero body]

/-- To shift by zero changes nothing. -/
theorem shifted_zero (p : List Node) : shifted 0 p = p := by
  cases p with
  | nil => rfl
  | cons n rest => rw [shifted, shifted_zero_node n, shifted_zero rest]

end

/-! ## The reader in the midst of another source -/

/-- The loops entered and the level under construction, of a reader alone, and those of one that reads the
    same from offset `d` on, where `around` were entered and `under` was on the level before. -/
inductive Placed (d : Nat) (around : List Unclosed) (under : List Node) :
    List Unclosed → List Node → List Unclosed → List Node → Prop where
  /-- On the outermost level, the nodes lie on those that were there before. -/
  | outermost (level : List Node) : Placed d around under [] level around (shifted d level ++ under)
  /-- Within a loop the level is the same, but for positions. -/
  | within (position : Option Int) (level : List Node) {us us' : List Unclosed}
      {before before' : List Node} (h : Placed d around under us before us' before') :
    Placed d around under (⟨position, before⟩ :: us) level
      (⟨position.map (· + (d : Int)), before'⟩ :: us') (shifted d level)

namespace Placed

variable {d : Nat} {around us us' : List Unclosed} {under level level' : List Node}

/-- One more node on the level under construction. -/
theorem push (h : Placed d around under us level us' level') (n : Node) :
    Placed d around under us (n :: level) us' (n.shifted d :: level') := by
  cases h with
  | outermost => exact .outermost _
  | within _ _ hbelow => exact .within _ _ hbelow

/-- A closing bracket makes a loop of the innermost level, for both. -/
theorem leave {u : Unclosed} (h : Placed d around under (u :: us) level us' level') :
    ∃ u' below', us' = u' :: below' ∧
      Placed d around under us (.loop level.reverse u.position :: u.before) below'
        (.loop level'.reverse u'.position :: u'.before) := by
  cases h with
  | within position _ hbelow =>
    refine ⟨_, _, rfl, ?_⟩
    have hpush := hbelow.push (.loop level.reverse position)
    rwa [Node.shifted, shifted_reverse] at hpush

end Placed

/-- **The reader goes on behind a balanced source** as if it had met only the nodes. -/
theorem readFrom_placed {d k : Nat} {around us us' : List Unclosed} {under level level' : List Node}
    {s rest : List Value} {p : Program} (hplaced : Placed d around under us level us' level')
    (h : readFrom k us level s = .ok p) :
    readFrom (k + d) us' level' (s ++ rest) =
      readFrom (k + s.length + d) around ((shifted d p).reverse ++ under) rest := by
  -- on the values to come, as the reader meets them
  induction s generalizing k us level us' level' with
  | nil =>
    cases hplaced with
    | outermost =>
      cases h
      rw [shifted_reverse, List.reverse_reverse]
      rfl
    | within => cases h
  | cons c s ih =>
    have hoffset : k + 1 + d = k + d + 1 := by omega
    have hposition : (some (k : Int)).map (· + (d : Int)) = some ((k + d : Nat) : Int) := by simp
    have hlength : k + (c :: s).length = k + 1 + s.length := by rw [List.length_cons]; omega
    rw [hlength, List.cons_append]
    rcases hb : Bracket.of? c with _ | _ | _
    · rw [readFrom_plain hb] at h ⊢
      have hpush := hplaced.push (.command c (some (k : Int)))
      rw [Node.shifted, hposition] at hpush
      rw [← ih hpush h, hoffset]
    · rw [readFrom_opening hb] at h ⊢
      have henter := Placed.within (some (k : Int)) [] hplaced
      rw [hposition] at henter
      rw [← ih henter h, hoffset]
      rfl
    · cases us with
      | nil =>
        rw [readFrom_stray hb] at h
        cases h
      | cons u us =>
        obtain ⟨u', below', rfl, hleave⟩ := hplaced.leave
        rw [readFrom_closing hb] at h ⊢
        rw [← ih hleave h, hoffset]

/-- **A reader that fails behind a balanced source** fails in the same way, at a larger position. -/
theorem readFrom_placed_error {d k : Nat} {us us' : List Unclosed} {under level level' : List Node}
    {s : List Value} {f : Fault} (hplaced : Placed d [] under us level us' level')
    (h : readFrom k us level s = .error f) : readFrom (k + d) us' level' s = .error (f.shifted d) := by
  induction s generalizing k us level us' level' with
  | nil =>
    cases hplaced with
    | outermost => cases h
    | within position level hbelow =>
      cases h
      rw [Fault.shifted_openLoop]
      rfl
  | cons c s ih =>
    have hoffset : k + d + 1 = k + 1 + d := by omega
    have hposition : some ((k + d : Nat) : Int) = (some (k : Int)).map (· + (d : Int)) := by simp
    rcases hb : Bracket.of? c with _ | _ | _
    · rw [readFrom_plain hb] at h ⊢
      rw [hoffset, hposition]
      exact ih (hplaced.push (.command c (some (k : Int)))) h
    · rw [readFrom_opening hb] at h ⊢
      rw [hoffset, hposition]
      exact ih (.within (some (k : Int)) [] hplaced) h
    · cases us with
      | nil =>
        -- nothing was open before, so nothing is open here either
        cases hplaced
        rw [readFrom_stray hb] at h ⊢
        cases h
        rfl
      | cons u us =>
        obtain ⟨u', below', rfl, hleave⟩ := hplaced.leave
        rw [readFrom_closing hb] at h ⊢
        rw [hoffset]
        exact ih hleave h

/-- The reader says where a source is wrong. -/
theorem exists_position_of_read {s : List Value} {f : Fault} (h : Program.read s = .error f) :
    ∃ i : Nat, f = .strayClose (.int i) ∨ f = .openLoop (.int i) := by
  have hreads := read_reads s
  rw [h] at hreads
  cases hreads with
  | @stray level k _ _ => exact ⟨k, .inl rfl⟩
  | unclosed hus =>
    obtain ⟨i, hi, -, -⟩ := hus.unpaired
    exact ⟨i, .inr (by rw [hi]; rfl)⟩

/-! ## Pieces -/

section

variable {s : List Value} {p : Program} (h : Program.read s = .ok p) (d : Nat) (us : List Unclosed)
  (level : List Node) (rest : List Value)

include h

/-- **A balanced source in the midst of another** adds its nodes to the level. -/
theorem readFrom_piece : readFrom d us level (s ++ rest) =
    readFrom (d + s.length) us ((shifted d p).reverse ++ level) rest := by
  have hplaced : Placed d us level [] [] us level := .outermost []
  have hread : readFrom (0 + d) us level (s ++ rest) = _ := readFrom_placed hplaced h
  rwa [Nat.zero_add, Nat.zero_add, Nat.add_comm] at hread

/-- **A balanced source in brackets** adds a loop to the level. -/
theorem readFrom_loop {o c : Value} (ho : Bracket.of? o = some .opening)
    (hc : Bracket.of? c = some .closing) :
    readFrom d us level (o :: (s ++ c :: rest)) =
      readFrom (d + s.length + 2) us (.loop (shifted (d + 1) p) (some (d : Int)) :: level) rest := by
  rw [readFrom_opening ho, readFrom_piece h, readFrom_closing hc, List.append_nil, List.reverse_reverse]
  congr 1
  omega

end

/-! ## Sources of bytes -/

section

variable {a c v : List UInt8} {A C V : Program} {d : Nat} {level : List Node}

/-- A balanced source at the end of another. -/
theorem readFrom_end (hv : Program.ofBytes v = .ok V) :
    readFrom d [] level (v.map byteCode) = .ok (level.reverse ++ shifted d V) := by
  have hread := readFrom_piece hv d [] level []
  rw [List.append_nil] at hread
  rw [hread, readFrom, List.reverse_append, List.reverse_reverse]

/-- A balanced source behind another in brackets, at the end of a third. -/
theorem readFrom_bracketed (hc : Program.ofBytes c = .ok C) (hv : Program.ofBytes v = .ok V) :
    readFrom d [] level ((bracketed c ++ v).map byteCode) =
      .ok (level.reverse ++ .loop (shifted (d + 1) C) (some (d : Int)) ::
        shifted (d + (c.length + 2)) V) := by
  have hsource : (bracketed c ++ v).map byteCode =
      byteCode openByte :: (c.map byteCode ++ byteCode closeByte :: v.map byteCode) := by
    simp [bracketed]
  rw [hsource, readFrom_loop hc d [] level _ rfl rfl, readFrom_end hv, List.length_map,
    List.reverse_cons, List.append_assoc, Nat.add_assoc]
  rfl

/-- What is read at the beginning of a source. -/
theorem ofBytes_append (ha : Program.ofBytes a = .ok A) (more : List UInt8) :
    Program.ofBytes (a ++ more) = readFrom a.length [] A.reverse (more.map byteCode) := by
  have hread := readFrom_piece ha 0 [] [] (more.map byteCode)
  rw [shifted_zero, List.append_nil, Nat.zero_add, List.length_map] at hread
  rw [Program.ofBytes, Program.read, List.map_append, hread]

/-- A source that is balanced has a tree. -/
theorem exists_ofBytes (h : Balanced (c.map byteCode) 0 c.length) : ∃ C, Program.ofBytes c = .ok C := by
  obtain ⟨hzero, hnonneg⟩ := h.beginning
  have hlength : (c.map byteCode).length = c.length := List.length_map _
  exact exists_read (Bracket.height_nonneg (hlength ▸ hnonneg)) (hlength ▸ hzero)

end

/-! ## The theorem -/

/-- **Reading respects how sources are put together.**  Let `s` be balanced.  A source behind it is read as
    alone, with every position, on every level, larger by the length of `s`: its nodes come behind those
    of `s`, or it is refused for the same kind of fault.  In brackets, `s` is one loop around its nodes,
    with every position larger by one. -/
theorem read_respects_joining {s : List Value} (hs : Balanced s 0 s.length) :
    ∃ p, Program.read s = .ok p ∧
      (∀ t q, Program.read t = .ok q → Program.read (s ++ t) = .ok (p ++ shifted s.length q)) ∧
      (∀ t f, Program.read t = .error f →
        ∃ (g : Fault) (i : Int), Program.read (s ++ t) = .error g ∧ g.kind = f.kind ∧
          f.position? = some (.int i) ∧ g.position? = some (.int (i + s.length))) ∧
      Program.read (.int openCode :: (s ++ [.int closeCode])) = .ok [.loop (shifted 1 p) (some 0)] := by
  obtain ⟨hlevel, hnonneg⟩ := hs.whole
  obtain ⟨p, hp⟩ := exists_read hnonneg hlevel
  -- the reader behind `s` has the nodes of `s` on its only level
  have hbehind : ∀ t, Program.read (s ++ t) = readFrom (0 + s.length) [] p.reverse t := by
    intro t
    have hread := readFrom_piece hp 0 [] [] t
    rwa [shifted_zero, List.append_nil] at hread
  have hplaced : Placed s.length [] p.reverse [] [] [] p.reverse := .outermost []
  refine ⟨p, hp, ?_, ?_, ?_⟩
  · intro t q hq
    have hread : readFrom (0 + s.length) [] p.reverse (t ++ []) = _ := readFrom_placed hplaced hq
    rw [List.append_nil] at hread
    rw [hbehind, hread]
    show Except.ok ((shifted s.length q).reverse ++ p.reverse).reverse = _
    rw [List.reverse_append, List.reverse_reverse, List.reverse_reverse]
  · intro t f hf
    obtain ⟨i, hi⟩ := exists_position_of_read hf
    refine ⟨f.shifted s.length, i, ?_, ?_⟩
    · rw [hbehind]
      exact readFrom_placed_error hplaced hf
    · rcases hi with rfl | rfl <;> exact ⟨rfl, rfl, rfl⟩
  · exact readFrom_loop hp 0 [] [] [] rfl rfl

/-- `[+]-` is the loop of `[+]` and a command at offset 3; the stray bracket of `[+]-]` is at offset 4. -/
theorem read_respects_joining_behind_loop :
    Balanced ([91, 43, 93].map byteCode) 0 3 ∧
    (∃ p, Program.ofBytes [91, 43, 93] = .ok p ∧
      Program.ofBytes [91, 43, 93, 45] = .ok (p ++ [.command (.int 45) (some 3)])) ∧
    ∃ g, Program.ofBytes [91, 43, 93, 45, 93] = .error g ∧ g.kind = .strayClose ∧
      g.position? = some (.int 4) := by
  have hloop : Balanced ([91, 43, 93].map byteCode) 0 3 := .wrap rfl (.plain rfl) rfl
  obtain ⟨p, hp, htree, hfault, -⟩ := read_respects_joining hloop
  obtain ⟨g, i, hg, hkind, hi, hposition⟩ := hfault ([45, 93].map byteCode) (.strayClose (.int 1)) rfl
  cases hi
  exact ⟨hloop, ⟨p, hp, htree ([45].map byteCode) [.command (.int 45) (some 0)] rfl⟩, g, hg, hkind,
    hposition⟩

end Program

end TapeLang
