/-
  Comment — loops that are never entered.

  A loop on a zero cell is passed, whatever is in it.  Two places are known where the cell under the head is
  zero in every run: the start of a program, for tapes are blank, and behind a loop, which ends on a zero
  cell only.  A loop at such a place is a comment.

  1. **Runs (`Program.agree_comment`)** — with and without the comment, two programs do the same up to it; the
     test of it counts a step and may keep a cell more, which cannot be seen; and from there on they do the
     same from states that are alike.
  2. **Positions (`Program.Stands.related`)** — what stands behind the comment in its source is the same tree
     at other positions, so a failure there, and no other, is told with another one (`Failure.moved`).
  3. **Sources (`Program.evaluate_comment`)** — the reader finds these trees, for what is balanced adds its
     nodes to any source.  All else is one theorem about a beginning that ends on zero cells only: the
     empty one, or one with a loop at its end.
-/
import TapeLang.Proofs.Congruence
import TapeLang.Proofs.Joining

namespace TapeLang

open TapeLang.Bracket (Balanced)

/-! ## Runs -/

/-- A loop on a zero cell is passed, and nothing else. -/
theorem Node.ends_loop_on_zero_iff {body : List Node} {position : Option Int} {s : State} {e : Effect}
    (hzero : s.tape.cell = 0) : Node.Ends (.loop body position) s e ↔ e = .done s.test := by
  have htest : s.test.tape.cell = 0 := by rw [State.test_tape, Tape.reach_cell, hzero]
  constructor
  · intro h
    cases h with
    | «over» => rfl
    | again hcell => exact absurd htest hcell
    | broken hcell => exact absurd htest hcell
  · rintro rfl
    exact .over htest

/-- **A loop behind a program that ends on zero cells only** is a comment: without it, another program behind
    that matches goes on as well. -/
theorem Program.agree_comment {F : Failure → Failure → Prop} {pre v v' body : List Node}
    {position : Option Int} {s : State}
    (hzero : ∀ t, Program.Ends pre s (.done t) → t.tape.cell = 0) (hpre : Program.Matched F pre pre)
    (hv : Program.Matched F v v') (hv' : Program.Matched (fun g f => F f g) v' v) :
    Program.Agree F (pre ++ v) s (pre ++ .loop body position :: v') s := by
  -- a failure before the comment is one of both
  have hself : ∀ f t, Program.Ends pre s (.failed f t) → F f f := by
    intro f t h
    obtain ⟨e', h', halike⟩ := hpre (.refl s) h
    cases h.endsIn.unique h'.endsIn
    cases halike with
    | failed hf _ => exact hf
  refine ⟨?_, ?_⟩
  · intro e he
    rcases ends_append_iff.1 he with ⟨t, hdone, hrest⟩ | ⟨f, t, hfailed, rfl⟩
    · have hpass : Node.Ends (.loop body position) t (.done t.test) :=
        (Node.ends_loop_on_zero_iff (hzero t hdone)).2 rfl
      obtain ⟨e', hrest', halike⟩ := hv (.test_right t) hrest
      exact ⟨e', ends_append_iff.2 (.inl ⟨t, hdone, .cons hpass hrest'⟩), halike⟩
    · exact ⟨_, ends_append_iff.2 (.inr ⟨f, t, hfailed, rfl⟩), .failed (hself f t hfailed) (.refl t)⟩
  · intro e' he'
    rcases ends_append_iff.1 he' with ⟨t, hdone, hrest⟩ | ⟨f, t, hfailed, rfl⟩
    · have hpass : ∀ e, Node.Ends (.loop body position) t e → e = .done t.test :=
        fun e => (Node.ends_loop_on_zero_iff (hzero t hdone)).1
      cases hrest with
      | cons hnode hrest =>
        cases hpass _ hnode
        obtain ⟨e, hbehind, halike⟩ := hv' (State.Like.test_right t).symm hrest
        exact ⟨e, ends_append_iff.2 (.inl ⟨t, hdone, hbehind⟩), halike.symm⟩
      | stop hnode => cases hpass _ hnode
    · exact ⟨_, ends_append_iff.2 (.inr ⟨f, t, hfailed, rfl⟩), .failed (hself f t hfailed) (.refl t)⟩

/-! ## Positions -/

/-- The failure, with the position of a command that there is not larger by `k` from `edge` on, if it can
    still be written. -/
def Failure.moved (edge k : Nat) : Failure → Failure
  | .fault (.undefined code (.int i) _ _) => .undefined code (.int (if (edge : Int) ≤ i then i + k else i))
  | f => f

/-- One command, an integer, stands at two positions, the second larger by `k` from `edge` on. -/
def Value.Moved (edge k : Nat) (c : Value) (x : Option Int) (d : Value) (y : Option Int) : Prop :=
  d = c ∧ c.integer?.isSome ∧ ∃ i : Int, x = some i ∧ y = some (if (edge : Int) ≤ i then i + k else i)

/-- What is no fault is not told by a position. -/
theorem Failure.moved_of_ne_fault {f : Failure} (h : ∀ g, f ≠ .fault g) (edge k : Nat) :
    f.moved edge k = f := by
  cases f with
  | fault g => exact absurd rfl (h g)
  | _ => rfl

/-- A position that is too long to be written is no shorter when it is larger. -/
theorem Value.not_isWritable_of_moved {edge k : Nat} {i : Int} (h : ¬ (Value.int i).isWritable) :
    ¬ (Value.int (if (edge : Int) ≤ i then i + k else i)).isWritable := by
  rw [isWritable_int_iff] at h ⊢
  split <;> omega

/-- A failure of a command that has moved is told as moved. -/
theorem Failure.Told.moved {edge k : Nat} {f g : Failure} (h : Failure.Told (Value.Moved edge k) f g) :
    g = f.moved edge k := by
  cases h with
  | edge => rfl
  | exhausted => rfl
  | @unknown _ code _ _ h =>
    obtain ⟨rfl, hcode, i, rfl, rfl⟩ := h
    by_cases hplace : (Value.int i).isWritable
    · have hnamed := undefined_of_isWritable hcode hplace
      rw [Fault.positionValue, Fault.positionValue, hnamed]
      rfl
    · -- a position that was too long to be written is so behind the move as well
      have hmoved : ¬ (Value.int (if (edge : Int) ≤ i then i + k else i)).isWritable :=
        Value.not_isWritable_of_moved hplace
      have hbefore := undefined_of_not_isWritable code hplace
      have hbehind := undefined_of_not_isWritable code hmoved
      rw [Fault.positionValue, Fault.positionValue, hbefore, hbehind]
      rfl

section

variable {R : Value → Option Int → Value → Option Int → Prop} {source : List Value} {d d' : Nat}

mutual

/-- A node that stands in a source, at two offsets. -/
theorem Node.Stands.related {n : Node} {a b : Nat} (h : n.Stands source a b)
    (hR : ∀ (c : Value) (i : Nat), source[i]? = some c → a ≤ i → i < b →
      R c (some ((i : Int) + d)) c (some ((i : Int) + d'))) :
    Node.Related R (n.shifted d) (n.shifted d') := by
  cases n with
  | command code position =>
    obtain ⟨hcode, -, rfl, rfl⟩ := h
    exact .command rfl (hR code a hcode (Nat.le_refl a) (Nat.lt_succ_self a))
  | loop body position =>
    obtain ⟨-, -, j, hbody, -, rfl⟩ := h
    exact .loop (hbody.related fun c i hc hai hij => hR c i hc (by omega) (by omega))

/-- **A tree that stands in a source, at two offsets**, differs in the positions alone. -/
theorem Program.Stands.related {nodes : List Node} {a b : Nat} (h : Program.Stands source nodes a b)
    (hR : ∀ (c : Value) (i : Nat), source[i]? = some c → a ≤ i → i < b →
      R c (some ((i : Int) + d)) c (some ((i : Int) + d'))) :
    Program.Related R (Program.shifted d nodes) (Program.shifted d' nodes) := by
  cases nodes with
  | nil => exact .nil
  | cons n rest =>
    obtain ⟨m, hnode, hrest⟩ := h
    have ham := hnode.balanced.le
    have hmb := hrest.balanced.le
    exact .cons (hnode.related fun c i hc hai him => hR c i hc hai (by omega))
      (hrest.related fun c i hc hmi hib => hR c i hc (by omega) hib)

end

end

/-! ## Evaluation -/

/-- With enough budget evaluating a program on some input gives a result. -/
def Evaluates [Codecs] (s : Settings) (program input : Value) (r : Except Failure (List UInt8)) : Prop :=
  r ≠ .error .unfinished ∧ ∃ n, evaluate n s program input = r

/-- Evaluating a program on some input never comes to an end. -/
def NeverEnds [Codecs] (s : Settings) (program input : Value) : Prop :=
  ∀ n, evaluate n s program input = .error .unfinished

theorem Settings.bytesOfList_ne_fault {items : List Value} (g : Fault) :
    bytesOfList items ≠ .error (.fault g) := by
  induction items with
  | nil => exact fun h => nomatch h
  | cons v rest ih =>
    unfold bytesOfList
    split
    · exact fun h => nomatch h
    · split
      · cases hrest : bytesOfList rest with
        | ok bytes => exact fun h => nomatch h
        | error f =>
          intro h
          obtain rfl : f = .fault g := Except.error.inj h
          exact ih hrest
      · exact fun h => nomatch h

/-- It is no fault that a value cannot be made bytes. -/
theorem Settings.bytesOf_ne_fault [Codecs] {s : Settings} {v : Value} (g : Fault) :
    s.bytesOf v ≠ .error (.fault g) := by
  unfold bytesOf
  split
  · exact fun h => nomatch h
  · rename_i t
    cases t.encoded s.encoding <;> exact fun h => nomatch h
  · unfold Value.checkWritable
    split <;> exact fun h => nomatch h
  · unfold Value.checkWritable
    split <;> exact fun h => nomatch h
  all_goals first | exact bytesOfList_ne_fault g | exact fun h => nomatch h

/-- A program of bytes is evaluated by running its tree on the bytes of the input. -/
theorem evaluate_bytes [Codecs] {source : List UInt8} {p : Program} (h : Program.ofBytes source = .ok p) (n : Nat)
    (s : Settings) (input : Value) : evaluate n s (.bytes source) input =
      (s.bytesOf input).bind fun bytes => (p.run n s.chunk bytes).result := by
  show (do let p ← (Program.ofBytes source).mapError Failure.fault; _) = _
  rw [h]
  rfl

/-- Sources whose programs agree are evaluated alike, on any input. -/
theorem evaluates_of_agree [Codecs] {s : Settings} {a b : List UInt8} {p q : Program} {edge k : Nat}
    (ha : Program.ofBytes a = .ok p) (hb : Program.ofBytes b = .ok q)
    (h : ∀ bytes, Program.Agree (fun f g => g = f.moved edge k) p (State.initial s.chunk bytes) q
      (State.initial s.chunk bytes)) (input : Value) :
    (∀ r, Evaluates s (.bytes b) input r ↔
      ∃ r', Evaluates s (.bytes a) input r' ∧ r = r'.mapError (Failure.moved edge k)) ∧
    (NeverEnds s (.bytes a) input ↔ NeverEnds s (.bytes b) input) := by
  simp only [Evaluates, NeverEnds, evaluate_bytes ha, evaluate_bytes hb]
  cases hinput : s.bytesOf input with
  | ok bytes =>
    refine ⟨fun r => (h bytes).returns_iff, ?_⟩
    exact Program.endless_iff_unfinished.symm.trans
      ((h bytes).endless_iff.trans Program.endless_iff_unfinished)
  | error f =>
    -- the input is refused before anything is run
    have hmoved : f.moved edge k = f :=
      Failure.moved_of_ne_fault (fun g hg => Settings.bytesOf_ne_fault g (hg ▸ hinput)) edge k
    have hresult : (Except.error f : Except Failure (List UInt8)).mapError (Failure.moved edge k) =
        .error f := congrArg Except.error hmoved
    refine ⟨fun r => ⟨?_, ?_⟩, Iff.rfl⟩
    · rintro ⟨hr, n, rfl⟩
      exact ⟨_, ⟨hr, n, rfl⟩, hresult.symm⟩
    · rintro ⟨_, ⟨hr, n, rfl⟩, rfl⟩
      exact ⟨hresult.symm ▸ hr, n, hresult.symm⟩

/-- **A comment in a source**: behind a balanced beginning that ends on zero cells only, a balanced source in
    brackets changes nothing but the positions behind it. -/
theorem Program.evaluate_comment [Codecs] {a c v : List UInt8} {A C V : Program}
    (ha : Program.ofBytes a = .ok A) (hc : Program.ofBytes c = .ok C) (hv : Program.ofBytes v = .ok V)
    (hzero : ∀ chunk bytes t, Program.Ends A (State.initial chunk bytes) (.done t) → t.tape.cell = 0)
    (s : Settings) (input : Value) :
    (∀ r, Evaluates s (.bytes (a ++ (bracketed c ++ v))) input r ↔
      ∃ r', Evaluates s (.bytes (a ++ v)) input r' ∧
        r = r'.mapError (Failure.moved a.length (c.length + 2))) ∧
    (NeverEnds s (.bytes (a ++ v)) input ↔ NeverEnds s (.bytes (a ++ (bracketed c ++ v))) input) := by
  have hwithout : Program.ofBytes (a ++ v) = .ok (A ++ shifted a.length V) := by
    rw [ofBytes_append ha, readFrom_end hv, List.reverse_reverse]
  have hwith := ofBytes_append ha (bracketed c ++ v)
  rw [readFrom_bracketed hc hv, List.reverse_reverse] at hwith
  have hbytes : ∀ {source : List UInt8} {i : Nat} {code : Value},
      (source.map byteCode)[i]? = some code → code.integer?.isSome := by
    intro source i code hcode
    rw [List.getElem?_map] at hcode
    obtain ⟨b, -, rfl⟩ := Option.map_eq_some_iff.1 hcode
    rfl
  -- what is before the comment stays where it is, and what is behind it moves
  have hbefore : Program.Related (Value.Moved a.length (c.length + 2)) (shifted 0 A) (shifted 0 A) := by
    refine (stands_of_read ha).related fun code i hcode _ hi => ⟨rfl, hbytes hcode, _, rfl, ?_⟩
    rw [List.length_map] at hi
    rw [if_neg (by omega)]
  have hbehind : Program.Related (Value.Moved a.length (c.length + 2)) (shifted a.length V)
      (shifted (a.length + (c.length + 2)) V) := by
    refine (stands_of_read hv).related fun code i hcode _ _ => ⟨rfl, hbytes hcode, _, rfl, ?_⟩
    rw [if_pos (by omega)]
    congr 1
    omega
  rw [shifted_zero] at hbefore
  have hmoved : ∀ f g, Failure.Told (Value.Moved a.length (c.length + 2)) f g →
      g = f.moved a.length (c.length + 2) := fun _ _ h => h.moved
  exact evaluates_of_agree hwithout hwith (fun bytes => agree_comment (hzero s.chunk bytes)
    (hbefore.matches hmoved).1 (hbehind.matches hmoved).1 (hbehind.matches hmoved).2) input

/-! ## The theorem -/

/-- **Loops that start on a zero cell are comments.**  Let `c`, `p`, `u`, `b` and `v` be balanced.  Evaluating
    `[c]p` gives what `p` gives, on any input and with any settings: the same bytes, or the same failure,
    only that the position of a command that there is not is larger by the length of `[c]`, if it is not
    too long to be written then; and it never ends exactly if `p` never does.  The same is so of `u[b][c]v`
    and `u[b]v`, where only positions in `v` are larger. -/
theorem Program.comments_change_nothing [Codecs] {c p u b v : List UInt8}
    (hc : Balanced (c.map byteCode) 0 c.length) (hp : Balanced (p.map byteCode) 0 p.length)
    (hu : Balanced (u.map byteCode) 0 u.length) (hb : Balanced (b.map byteCode) 0 b.length)
    (hv : Balanced (v.map byteCode) 0 v.length) (s : Settings) (input : Value) :
    ((∀ r, Evaluates s (.bytes (bracketed c ++ p)) input r ↔
      ∃ r', Evaluates s (.bytes p) input r' ∧ r = r'.mapError (Failure.moved 0 (c.length + 2))) ∧
      (NeverEnds s (.bytes p) input ↔ NeverEnds s (.bytes (bracketed c ++ p)) input)) ∧
    ((∀ r, Evaluates s (.bytes (u ++ bracketed b ++ (bracketed c ++ v))) input r ↔
      ∃ r', Evaluates s (.bytes (u ++ bracketed b ++ v)) input r' ∧
        r = r'.mapError (Failure.moved (u ++ bracketed b).length (c.length + 2))) ∧
      (NeverEnds s (.bytes (u ++ bracketed b ++ v)) input ↔
        NeverEnds s (.bytes (u ++ bracketed b ++ (bracketed c ++ v))) input)) := by
  obtain ⟨C, hc⟩ := exists_ofBytes hc
  obtain ⟨P, hp⟩ := exists_ofBytes hp
  obtain ⟨U, hu⟩ := exists_ofBytes hu
  obtain ⟨B, hb⟩ := exists_ofBytes hb
  obtain ⟨V, hv⟩ := exists_ofBytes hv
  constructor
  · have hblank : ∀ chunk bytes t, Program.Ends [] (State.initial chunk bytes) (.done t) →
        t.tape.cell = 0 := by
      intro chunk bytes t h
      cases h
      rfl
    exact evaluate_comment (a := []) rfl hc hp hblank s input
  · have hnil : Program.ofBytes [] = .ok [] := rfl
    have hloop := ofBytes_append hu (bracketed b ++ [])
    rw [readFrom_bracketed hb hnil, List.reverse_reverse, List.append_nil] at hloop
    refine evaluate_comment hloop hc hv ?_ s input
    -- what comes last is the loop around `b`
    intro chunk bytes t h
    rcases ends_append_iff.1 h with ⟨t', -, hlast⟩ | ⟨f, t', -, hcontra⟩
    · exact ((ends_singleton_iff.1 hlast).zero_behind rfl rfl).1
    · cases hcontra

/-- `+[-]y` fails at `y`, at offset 4; `+[-][x]y` fails there too, at offset 7. -/
theorem Program.comments_change_nothing_behind_loop :
    (Balanced [byteCode 120] 0 1 ∧ Balanced [byteCode 43] 0 1 ∧ Balanced [byteCode 45] 0 1 ∧
      Balanced [byteCode 121] 0 1) ∧
    Evaluates { chunk := ⟨1, by decide⟩ } (.bytes [43, 91, 45, 93, 91, 120, 93, 121]) .null
      (.error (.fault (.undefined (.int 121) (.int 7) rfl rfl))) := by
  have hx : Balanced [byteCode 120] 0 1 := .plain rfl
  have hplus : Balanced [byteCode 43] 0 1 := .plain rfl
  have hminus : Balanced [byteCode 45] 0 1 := .plain rfl
  have hy : Balanced [byteCode 121] 0 1 := .plain rfl
  refine ⟨⟨hx, hplus, hminus, hy⟩, ?_⟩
  have hmoved := (comments_change_nothing (c := [120]) (p := [121]) (u := [43]) (b := [45]) (v := [121])
    hx hy hplus hminus hy { chunk := ⟨1, by decide⟩ } .null).2.1
  refine (hmoved _).2 ⟨.error (.fault (.undefined (.int 121) (.int 4) rfl rfl)), ⟨?_, 12, ?_⟩, ?_⟩
  · exact fun h => nomatch h
  · rfl
  · rfl

end TapeLang
