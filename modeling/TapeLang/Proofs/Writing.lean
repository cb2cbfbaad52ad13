/-
  Writing — reading and writing undo each other.

  1. **Bytes** — `Spells` says which bytes some values are: each value is an integer, and the integers are
     those of the bytes.  A program has bytes exactly if its commands are bytes (`Program.source_ok_iff`),
     and then they are what its source spells.

  2. **Writing what was read** — `Program.codes_of_readFrom`.  The crux is what the reader keeps: the
     source of what is under construction, with an opening bracket before each level, followed by what
     is still to be read, is one and the same sequence all the time.

  3. **Reading what was written** — `Program.readFrom_bytes`, by recursion on the tree.  The bytes of a
     node are read with any levels open, and they put the node on the innermost one.  Where the nodes
     stand is no matter of this induction: a tree that was read stands in its source.
-/
import TapeLang.Program.Sameness
import TapeLang.Proofs.Reading

namespace TapeLang

open TapeLang.Bracket (height)

/-! ## Values that are bytes -/

/-- The value is an integer that a byte can hold, or a truth value in place of one. -/
def Value.IsByte (v : Value) : Prop := ∃ n, v.integer? = some n ∧ 0 ≤ n ∧ n < 256

instance (v : Value) : Decidable v.IsByte :=
  decidable_of_iff (∃ n ∈ v.integer?, 0 ≤ n ∧ n < 256) Iff.rfl

/-- What is an integer is worth that integer. -/
theorem Value.whole?_of_integer? {v : Value} {n : Int} (h : v.integer? = some n) : v.whole? = some n := by
  cases v with
  | float x => cases h
  | _ => exact h

/-- The integer of a byte is one that a byte can hold. -/
theorem toNat_ofNat_of_range {n : Int} (h : 0 ≤ n ∧ n < 256) :
    ((UInt8.ofNat n.toNat).toNat : Int) = n := by
  have hlt : n.toNat < 256 := by omega
  rw [UInt8.toNat_ofNat', Nat.mod_eq_of_lt hlt]
  omega

/-- A value has a byte exactly if it is one. -/
theorem Value.isByte_iff {v : Value} : v.IsByte ↔ ∃ b : UInt8, v.integer? = some (b.toNat : Int) := by
  constructor
  · rintro ⟨n, hn, hrange⟩
    exact ⟨UInt8.ofNat n.toNat, by rw [toNat_ofNat_of_range hrange, hn]⟩
  · rintro ⟨b, hb⟩
    have hlt := b.toNat_lt
    exact ⟨_, hb, by omega, by omega⟩

/-- A value is written as a byte if it is the integer of the byte. -/
theorem byteOf_eq_ok_iff {c : Value} {b : UInt8} :
    byteOf c = .ok b ↔ c.integer? = some (b.toNat : Int) := by
  unfold byteOf
  cases hc : c.integer? with
  | none => simp
  | some n =>
    have hlt := b.toNat_lt
    show (if 0 ≤ n ∧ n < 256 then Except.ok (UInt8.ofNat n.toNat) else Except.error Failure.byteRange) = .ok b ↔
      some n = some (b.toNat : Int)
    constructor
    · intro h
      split at h
      · rename_i hrange
        cases h
        rw [toNat_ofNat_of_range hrange]
      · cases h
    · intro h
      obtain rfl := Option.some.inj h
      rw [if_pos (by omega), Int.toNat_natCast, UInt8.ofNat_toNat]

/-- The values are integers, and the integers are the given bytes. -/
def Spells (codes : List Value) (bytes : List UInt8) : Prop :=
  codes.map Value.integer? = bytes.map fun b => some (b.toNat : Int)

namespace Spells

theorem bytes (bs : List UInt8) : Spells (bs.map byteCode) bs := by
  rw [Spells, List.map_map]
  rfl

theorem nil_iff {bs : List UInt8} : Spells [] bs ↔ bs = [] := by
  rw [Spells, List.map_nil, eq_comm, List.map_eq_nil_iff]

theorem cons_iff {c : Value} {rest : List Value} {bs : List UInt8} :
    Spells (c :: rest) bs ↔
      ∃ b bs', bs = b :: bs' ∧ c.integer? = some (b.toNat : Int) ∧ Spells rest bs' := by
  rw [Spells, List.map_cons, eq_comm, List.map_eq_cons_iff]
  constructor
  · rintro ⟨b, bs', rfl, hb, hrest⟩
    exact ⟨b, bs', rfl, hb.symm, hrest.symm⟩
  · rintro ⟨b, bs', rfl, hb, hrest⟩
    exact ⟨b, bs', rfl, hb.symm, hrest.symm⟩

theorem append_iff {codes codes' : List Value} {bs : List UInt8} :
    Spells (codes ++ codes') bs ↔ ∃ l r, bs = l ++ r ∧ Spells codes l ∧ Spells codes' r := by
  rw [Spells, List.map_append, eq_comm, List.map_eq_append_iff]
  constructor
  · rintro ⟨l, r, rfl, hl, hr⟩
    exact ⟨l, r, rfl, hl.symm, hr.symm⟩
  · rintro ⟨l, r, rfl, hl, hr⟩
    exact ⟨l, r, rfl, hl.symm, hr.symm⟩

/-- Some values are written as the bytes that they spell, and in no other way. -/
theorem mapM_byteOf_iff {codes : List Value} {bs : List UInt8} :
    codes.mapM byteOf = .ok bs ↔ Spells codes bs := by
  induction codes generalizing bs with
  | nil =>
    rw [nil_iff, List.mapM_nil]
    exact ⟨fun h => by cases h; rfl, fun h => by rw [h]; rfl⟩
  | cons c rest ih =>
    rw [cons_iff]
    constructor
    · intro h
      cases hc : byteOf c with
      | error f =>
        rw [mapM_byteOf_cons_error hc] at h
        cases h
      | ok b =>
        rw [mapM_byteOf_cons hc] at h
        cases hrest : rest.mapM byteOf with
        | error f =>
          rw [hrest] at h
          cases h
        | ok bs' =>
          rw [hrest] at h
          cases h
          exact ⟨b, bs', rfl, byteOf_eq_ok_iff.1 hc, ih.1 hrest⟩
    · rintro ⟨b, bs', rfl, hb, hrest⟩
      rw [mapM_byteOf_cons (byteOf_eq_ok_iff.2 hb), ih.2 hrest]
      rfl

/-- What keeps values from being written is one of them. -/
theorem mem_of_mapM_error {codes : List Value} {f : Failure} (h : codes.mapM byteOf = .error f) :
    ∃ c ∈ codes, byteOf c = .error f := by
  induction codes with
  | nil => cases h
  | cons c rest ih =>
    cases hc : byteOf c with
    | error g =>
      rw [mapM_byteOf_cons_error hc] at h
      cases h
      exact ⟨c, List.mem_cons_self, hc⟩
    | ok b =>
      rw [mapM_byteOf_cons hc] at h
      cases hrest : rest.mapM byteOf with
      | error g =>
        rw [hrest] at h
        cases h
        obtain ⟨d, hd, hbyte⟩ := ih hrest
        exact ⟨d, List.mem_cons_of_mem _ hd, hbyte⟩
      | ok bs =>
        rw [hrest] at h
        cases h

/-- Values spell something exactly if they are bytes. -/
theorem exists_iff {codes : List Value} : (∃ bs, Spells codes bs) ↔ ∀ c ∈ codes, c.IsByte := by
  induction codes with
  | nil =>
    constructor
    · intro _ c hc
      cases hc
    · intro _
      exact ⟨[], rfl⟩
  | cons c rest ih =>
    rw [List.forall_mem_cons, ← ih, Value.isByte_iff]
    constructor
    · rintro ⟨bs, h⟩
      obtain ⟨b, bs', rfl, hb, hrest⟩ := cons_iff.1 h
      exact ⟨⟨b, hb⟩, bs', hrest⟩
    · rintro ⟨⟨b, hb⟩, bs', hrest⟩
      exact ⟨b :: bs', cons_iff.2 ⟨b, bs', rfl, hb, hrest⟩⟩

end Spells

/-! ## The bytes of a program -/

namespace Program

mutual

/-- The source of a node holds its commands, and brackets. -/
theorem mem_codes_of_node {n : Node} {c : Value} :
    c ∈ n.codes → c ∈ n.commands ∨ c = .int openCode ∨ c = .int closeCode := by
  intro h
  cases n with
  | command code position => exact .inl h
  | loop body position =>
    rcases List.mem_cons.1 h with rfl | h
    · exact .inr (.inl rfl)
    · rcases List.mem_append.1 h with h | h
      · exact mem_codes h
      · exact .inr (.inr (List.mem_singleton.1 h))

/-- The source of a program holds its commands, and brackets. -/
theorem mem_codes {nodes : List Node} {c : Value} :
    c ∈ codes nodes → c ∈ commands nodes ∨ c = .int openCode ∨ c = .int closeCode := by
  intro h
  cases nodes with
  | nil => cases h
  | cons n rest =>
    rcases List.mem_append.1 h with h | h
    · exact (mem_codes_of_node h).imp_left (List.mem_append_left _)
    · exact (mem_codes h).imp_left (List.mem_append_right _)

end

mutual

theorem codes_of_mem_node {n : Node} {c : Value} : c ∈ n.commands → c ∈ n.codes := by
  intro h
  cases n with
  | command code position => exact h
  | loop body position =>
    exact List.mem_cons_of_mem _ (List.mem_append_left _ (codes_of_mem h))

/-- The commands of a program are in its source. -/
theorem codes_of_mem {nodes : List Node} {c : Value} : c ∈ commands nodes → c ∈ codes nodes := by
  intro h
  cases nodes with
  | nil => cases h
  | cons n rest =>
    rcases List.mem_append.1 h with h | h
    · exact List.mem_append_left _ (codes_of_mem_node h)
    · exact List.mem_append_right _ (codes_of_mem h)

end

/-- What is true of the brackets and of the commands is true of the whole source. -/
theorem forall_codes_iff {P : Value → Prop} (ho : P (.int openCode)) (hc : P (.int closeCode))
    {p : Program} : (∀ c ∈ codes p, P c) ↔ ∀ c ∈ commands p, P c := by
  constructor
  · intro h c hmem
    exact h c (codes_of_mem hmem)
  · intro h c hmem
    rcases mem_codes hmem with hmem | rfl | rfl
    · exact h c hmem
    · exact ho
    · exact hc

/-- The bytes of a program are what its source spells. -/
theorem source_eq_ok_iff {p : Program} {bs : List UInt8} :
    Program.source p = .ok bs ↔ Spells (codes p) bs := by
  rw [source_eq, Spells.mapM_byteOf_iff]

/-- A program has bytes exactly if its commands are bytes. -/
theorem source_ok_iff {p : Program} : (∃ bs, Program.source p = .ok bs) ↔ ∀ c ∈ commands p, c.IsByte := by
  simp only [source_eq_ok_iff]
  rw [Spells.exists_iff]
  exact forall_codes_iff (by decide) (by decide)

end Program

/-! ## Writing what was read -/

/-- The source of what is under construction: of each level before the innermost one, and the bracket
    behind it. -/
def Unclosed.codes : List Unclosed → List Value
  | [] => []
  | u :: us => codes us ++ Program.codes u.before.reverse ++ [.int openCode]

namespace Program

theorem codes_append (nodes nodes' : List Node) : codes (nodes ++ nodes') = codes nodes ++ codes nodes' := by
  induction nodes with
  | nil => rfl
  | cons n rest ih =>
    show n.codes ++ codes (rest ++ nodes') = n.codes ++ codes rest ++ codes nodes'
    rw [ih, List.append_assoc]

/-- One more node on a level. -/
theorem codes_reverse_cons (n : Node) (level : List Node) :
    codes (n :: level).reverse = codes level.reverse ++ n.codes := by
  rw [List.reverse_cons, codes_append]
  show codes level.reverse ++ (n.codes ++ []) = _
  rw [List.append_nil]

/-- Looked at in a way that takes every bracket for the integer of the bracket, what is under
    construction and what is to come are the source of the tree that is read. -/
theorem codes_of_readFrom {α : Type} {look : Value → α} {k : Nat} {us : List Unclosed}
    {level : List Node} {rest : List Value} {p : Program}
    (hopen : ∀ c ∈ rest, c.whole? = some openCode → look c = look (.int openCode))
    (hclose : ∀ c ∈ rest, c.whole? = some closeCode → look c = look (.int closeCode))
    (h : readFrom k us level rest = .ok p) :
    (codes p).map look = (Unclosed.codes us ++ codes level.reverse ++ rest).map look := by
  induction rest generalizing us level k with
  | nil =>
    cases us with
    | nil =>
      cases h
      show _ = ([] ++ codes level.reverse ++ []).map look
      rw [List.append_nil, List.nil_append]
    | cons u us => cases h
  | cons c rest ih =>
    have hopen' := fun c hc => hopen c (List.mem_cons_of_mem _ hc)
    have hclose' := fun c hc => hclose c (List.mem_cons_of_mem _ hc)
    rcases hb : Bracket.of? c with _ | _ | _
    · rw [readFrom_plain hb] at h
      rw [ih hopen' hclose' h, codes_reverse_cons]
      simp [Node.codes]
    · rw [readFrom_opening hb] at h
      have hc := hopen c List.mem_cons_self (Bracket.of?_eq_opening_iff.1 hb)
      rw [ih hopen' hclose' h]
      simp [Unclosed.codes, codes, hc]
    · cases us with
      | nil =>
        rw [readFrom_stray hb] at h
        cases h
      | cons u us =>
        rw [readFrom_closing hb] at h
        have hc := hclose c List.mem_cons_self (Bracket.of?_eq_closing_iff.1 hb)
        rw [ih hopen' hclose' h, codes_reverse_cons]
        simp [Unclosed.codes, Node.codes, hc]

/-- The source of a tree that was read is worth what was read. -/
theorem codes_of_read {source : List Value} {p : Program} (h : Program.read source = .ok p) :
    (codes p).map Value.whole? = source.map Value.whole? :=
  codes_of_readFrom (fun _ _ hc => hc) (fun _ _ hc => hc) h

/-- The source of a tree that was read spells the bytes that were read. -/
theorem spells_of_read {source : List Value} {bs : List UInt8} {p : Program} (hs : Spells source bs)
    (h : Program.read source = .ok p) : Spells (codes p) bs := by
  -- an integer is worth itself alone
  have hlook : ∀ n, ∀ c ∈ source, c.whole? = some n → c.integer? = (Value.int n).integer? := by
    intro n c hc hn
    obtain ⟨m, hm, -⟩ := Spells.exists_iff.1 ⟨bs, hs⟩ c hc
    rw [Value.whole?_of_integer? hm] at hn
    rw [hm, hn]
    rfl
  exact (codes_of_readFrom (hlook openCode) (hlook closeCode) h).trans hs

/-! ## Reading what was written -/

/-- A byte is the bracket that the value it stands for is. -/
theorem of?_byteCode {c : Value} {b : UInt8} (h : c.integer? = some (b.toNat : Int)) :
    Bracket.of? (byteCode b) = Bracket.of? c := by
  have hworth : (byteCode b).whole? = c.whole? := (Value.whole?_of_integer? h).symm
  rw [Bracket.of?, Bracket.of?, hworth]

/-- A byte is the same command as the value it stands for. -/
theorem sameKey_byteCode {c : Value} {b : UInt8} (h : c.integer? = some (b.toNat : Int)) :
    (byteCode b).sameKey c = true := by
  have hworth := Value.whole?_of_integer? h
  cases c with
  | int n | bool n =>
    show ((byteCode b).whole?.isSome && (byteCode b).whole? == _) = true
    rw [hworth]
    exact beq_self_eq_true (some (b.toNat : Int))
  | _ => cases h

mutual

/-- The bytes of a node put the node on the level under construction. -/
theorem readFrom_bytes_of_node {n : Node} {bs : List UInt8} (hs : Spells n.codes bs)
    (hplain : ∀ c ∈ n.commands, Bracket.of? c = none) (k : Nat) (us : List Unclosed)
    (level : List Node) (rest : List Value) :
    ∃ n', n'.same n = true ∧ readFrom k us level (bs.map byteCode ++ rest) =
      readFrom (k + bs.length) us (n' :: level) rest := by
  cases n with
  | command code position =>
    obtain ⟨b, bs', rfl, hb, hnil⟩ := Spells.cons_iff.1 hs
    obtain rfl := Spells.nil_iff.1 hnil
    have hbracket := (of?_byteCode hb).trans (hplain code List.mem_cons_self)
    exact ⟨.command (byteCode b) (some (k : Int)), sameKey_byteCode hb, readFrom_plain hbracket⟩
  | loop body position =>
    obtain ⟨o, bs', rfl, ho, hrest⟩ := Spells.cons_iff.1 hs
    obtain ⟨inner, last, rfl, hbody, hlast⟩ := Spells.append_iff.1 hrest
    obtain ⟨c, last', rfl, hc, hnil⟩ := Spells.cons_iff.1 hlast
    obtain rfl := Spells.nil_iff.1 hnil
    -- the body is read on a level of its own, and the closing bracket makes a loop of it
    obtain ⟨body', hsame, hread⟩ :=
      readFrom_bytes hbody hplain (k + 1) (⟨some (k : Int), level⟩ :: us) [] (byteCode c :: rest)
    refine ⟨.loop body' (some (k : Int)), hsame, ?_⟩
    have happend : (o :: (inner ++ [c])).map byteCode ++ rest =
        byteCode o :: (inner.map byteCode ++ byteCode c :: rest) := by simp
    have hlength : k + 1 + inner.length + 1 = k + (o :: (inner ++ [c])).length := by
      simp only [List.length_cons, List.length_append, List.length_nil]
      omega
    rw [happend, readFrom_opening (of?_byteCode ho), hread, readFrom_closing (of?_byteCode hc),
      List.append_nil, List.reverse_reverse, hlength]

/-- The bytes of a sequence of nodes put the nodes on the level under construction. -/
theorem readFrom_bytes {nodes : List Node} {bs : List UInt8} (hs : Spells (codes nodes) bs)
    (hplain : ∀ c ∈ commands nodes, Bracket.of? c = none) (k : Nat) (us : List Unclosed)
    (level : List Node) (rest : List Value) :
    ∃ nodes', Program.same nodes' nodes = true ∧ readFrom k us level (bs.map byteCode ++ rest) =
      readFrom (k + bs.length) us (nodes'.reverse ++ level) rest := by
  cases nodes with
  | nil =>
    obtain rfl := Spells.nil_iff.1 hs
    exact ⟨[], rfl, rfl⟩
  | cons n more =>
    obtain ⟨l, r, rfl, hl, hr⟩ := Spells.append_iff.1 hs
    obtain ⟨n', hn, hfirst⟩ := readFrom_bytes_of_node hl
      (fun c hc => hplain c (List.mem_append_left _ hc)) k us level (r.map byteCode ++ rest)
    obtain ⟨more', hmore, hthen⟩ := readFrom_bytes hr
      (fun c hc => hplain c (List.mem_append_right _ hc)) (k + l.length) us (n' :: level) rest
    refine ⟨n' :: more', ?_, ?_⟩
    · show (n'.same n && Program.same more' more) = true
      rw [hn, hmore]
      rfl
    · rw [List.map_append, List.append_assoc, hfirst, hthen, List.length_append, List.reverse_cons,
        List.append_assoc, List.singleton_append, Nat.add_assoc]

end

/-- The bytes of a program are read as the program, up to positions. -/
theorem read_bytes {p : Program} {bs : List UInt8} (hs : Spells (codes p) bs)
    (hplain : ∀ c ∈ commands p, Bracket.of? c = none) :
    ∃ q, Program.ofBytes bs = .ok q ∧ Program.same q p = true := by
  obtain ⟨q, hsame, hread⟩ := readFrom_bytes hs hplain 0 [] [] []
  refine ⟨q, ?_, hsame⟩
  rw [List.append_nil, List.append_nil] at hread
  rw [ofBytes, Program.read, hread]
  show Except.ok q.reverse.reverse = _
  rw [List.reverse_reverse]

/-! ## Same programs -/

mutual

/-- Nodes that are the same have sources that are worth the same. -/
theorem codes_of_same_node {m n : Node} (h : m.same n = true) :
    m.codes.map Value.whole? = n.codes.map Value.whole? := by
  cases m with
  | command c position =>
    cases n with
    | command d position' => exact congrArg (fun n? => [n?]) (Value.whole?_eq_of_sameKey h)
    | loop body' position' => cases h
  | loop body position =>
    cases n with
    | command d position' => cases h
    | loop body' position' =>
      have hbody : (codes body).map Value.whole? = (codes body').map Value.whole? := codes_of_same h
      simp only [Node.codes, List.map_cons, List.map_append, hbody]

/-- Programs that are the same have sources that are worth the same. -/
theorem codes_of_same {p q : List Node} (h : Program.same p q = true) :
    (codes p).map Value.whole? = (codes q).map Value.whole? := by
  cases p with
  | nil =>
    cases q with
    | nil => rfl
    | cons n rest' => cases h
  | cons m rest =>
    cases q with
    | nil => cases h
    | cons n rest' =>
      obtain ⟨hnode, hrest⟩ := Bool.and_eq_true_iff.1 h
      simp only [codes, List.map_append, codes_of_same_node hnode, codes_of_same hrest]

end

/-- Bytes are told apart by what they are worth as commands. -/
theorem bytes_of_whole? {s t : List UInt8}
    (h : (s.map byteCode).map Value.whole? = (t.map byteCode).map Value.whole?) : s = t := by
  rw [List.map_map, List.map_map] at h
  refine (List.map_inj_right ?_).1 h
  intro a b hab
  have hnat : (a.toNat : Int) = b.toNat := Option.some.inj hab
  exact UInt8.toNat_inj.1 (by omega)

mutual

/-- No command of a node that stands in a source is a bracket. -/
theorem plain_of_node_stands {source : List Value} {n : Node} {a b : Nat} (h : n.Stands source a b) :
    ∀ c ∈ n.commands, Bracket.of? c = none := by
  intro c hc
  cases n with
  | command code position =>
    obtain ⟨-, hplain, -, -⟩ := h
    rw [List.mem_singleton.1 hc]
    exact hplain
  | loop body position =>
    obtain ⟨-, -, j, hbody, -, -⟩ := h
    exact plain_of_stands hbody c hc

/-- No command of a sequence of nodes that stands in a source is a bracket. -/
theorem plain_of_stands {source : List Value} {nodes : List Node} {a b : Nat}
    (h : Program.Stands source nodes a b) : ∀ c ∈ commands nodes, Bracket.of? c = none := by
  intro c hc
  cases nodes with
  | nil => cases hc
  | cons n rest =>
    obtain ⟨m, hnode, hrest⟩ := h
    rcases List.mem_append.1 hc with hc | hc
    · exact plain_of_node_stands hnode c hc
    · exact plain_of_stands hrest c hc

end

/-- Two sources of bytes are read as the same program exactly if they are the same bytes. -/
theorem same_iff_of_bytes {s t : List UInt8} {p q : Program} (hs : Program.ofBytes s = .ok p)
    (ht : Program.ofBytes t = .ok q) : Program.same p q = true ↔ s = t := by
  constructor
  · intro h
    have hcodes := codes_of_same h
    rw [codes_of_read hs, codes_of_read ht] at hcodes
    exact bytes_of_whole? hcodes
  · rintro rfl
    -- what is written of `q` are the bytes again, and they are read as `q` up to positions
    have hspells := spells_of_read (Spells.bytes s) ht
    obtain ⟨q', hq', hsame⟩ := read_bytes hspells (plain_of_stands (stands_of_read ht))
    obtain rfl := Except.ok.inj (hs.symm.trans hq')
    exact hsame

/-! ## Both directions -/

/-- What keeps a program of integers from being written is an integer out of range. -/
theorem source_eq_byteRange_iff {p : Program} (hp : ∀ c ∈ commands p, c.integer?.isSome) :
    Program.source p = .error .byteRange ↔ ∃ c ∈ commands p, ¬ c.IsByte := by
  constructor
  · intro h
    rcases Classical.em (∃ c ∈ commands p, ¬ c.IsByte) with hsome | hnone
    · exact hsome
    · obtain ⟨bs, hbs⟩ := source_ok_iff.2 fun c hc =>
        Decidable.not_not.1 fun hbyte => hnone ⟨c, hc, hbyte⟩
      rw [hbs] at h
      cases h
  · rintro ⟨c, hc, hbyte⟩
    cases h : Program.source p with
    | ok bs => exact absurd (source_ok_iff.1 ⟨bs, h⟩ c hc) hbyte
    | error f =>
      rw [source_eq] at h
      obtain ⟨d, hd, hf⟩ := Spells.mem_of_mapM_error h
      have hintegers := (forall_codes_iff (P := fun v => v.integer?.isSome = true) rfl rfl).2 hp
      obtain ⟨n, hn⟩ := Option.isSome_iff_exists.1 (hintegers d hd)
      rw [byteOf, hn] at hf
      replace hf : (if 0 ≤ n ∧ n < 256 then Except.ok (UInt8.ofNat n.toNat)
        else Except.error Failure.byteRange) = Except.error f := hf
      split at hf
      · cases hf
      · cases hf
        rfl

/-- **Writing and reading are inverse to each other.**  A balanced source of integers that are bytes is
    read, and the tree is written as these bytes.  A tree of commands that are bytes and no brackets is
    written, and its bytes are read as the same tree, in which every node stands at the offset of its own
    byte.  A tree of integers cannot be written exactly if one of them, at any depth, is no byte.  So two
    sources of bytes make the same tree exactly if they are equal. -/
theorem writing_inverts_reading :
    (∀ (source : List Value) (bytes : List UInt8), Spells source bytes →
      (∀ k, 0 ≤ height source k) → height source source.length = 0 →
      ∃ p, Program.read source = .ok p ∧ Program.source p = .ok bytes) ∧
    (∀ p : Program, (∀ c ∈ commands p, c.IsByte ∧ Bracket.of? c = none) →
      ∃ bytes q, Program.source p = .ok bytes ∧ Program.ofBytes bytes = .ok q ∧
        Program.same q p = true ∧ Program.Stands (bytes.map byteCode) q 0 bytes.length) ∧
    (∀ p : Program, (∀ c ∈ commands p, c.integer?.isSome) →
      (Program.source p = .error .byteRange ↔ ∃ c ∈ commands p, ¬ c.IsByte)) ∧
    (∀ (s t : List UInt8) (p q : Program), Program.ofBytes s = .ok p → Program.ofBytes t = .ok q →
      (Program.same p q = true ↔ s = t)) := by
  refine ⟨?_, ?_, ?_, ?_⟩
  · intro source bytes hs hnonneg hlevel
    obtain ⟨p, hp⟩ := exists_read hnonneg hlevel
    exact ⟨p, hp, source_eq_ok_iff.2 (spells_of_read hs hp)⟩
  · intro p hp
    obtain ⟨bytes, hbytes⟩ := source_ok_iff.2 fun c hc => (hp c hc).1
    obtain ⟨q, hq, hsame⟩ := read_bytes (source_eq_ok_iff.1 hbytes) fun c hc => (hp c hc).2
    have hstands := stands_of_read hq
    rw [List.length_map] at hstands
    exact ⟨bytes, q, hbytes, hq, hsame, hstands⟩
  · intro p hp
    exact source_eq_byteRange_iff hp
  · intro s t p q hs ht
    exact same_iff_of_bytes hs ht

/-- `+[-]` is read and written again.  A command 300 in a loop is what keeps a tree from being written. -/
theorem writing_inverts_reading_at_loop :
    (∃ p, Program.read ([43, 91, 45, 93].map byteCode) = .ok p ∧
      Program.source p = .ok [43, 91, 45, 93]) ∧
    Program.source [.loop [.command (.int 300) none] none] = .error .byteRange := by
  obtain ⟨hread, -, hrange, -⟩ := writing_inverts_reading
  refine ⟨hread _ _ (Spells.bytes _) (Bracket.height_nonneg (by decide)) (by decide), ?_⟩
  exact (hrange _ (by decide)).2 ⟨.int 300, List.mem_cons_self, by decide⟩

end Program

end TapeLang
