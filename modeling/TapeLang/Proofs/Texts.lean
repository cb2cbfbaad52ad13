/-
  Texts — programs that are given as texts.

  The reader meets the bytes of a text and not its characters.  It finds the loops that the characters
  suggest all the same.

  1. **Brackets are kept (`Encoding.KeepsBrackets`)** — in ASCII, Latin-1 and UTF-8 a bracket is one byte, and no
     other character has a byte that is a bracket.  In UTF-8 that is so because all bytes of a character
     beyond ASCII are 128 or more.
  2. **Spelling (`Program.spelled`)** — the tree of the characters, in which a character is as many commands as
     it has bytes.  What stands at a character stands at the byte with which the character begins.
  3. **The crux (`Program.readFrom_spelled`)** — a reader of characters and a reader of their bytes go through the
     text in step.  What the one has under construction is, spelled, what the other has, and so is the
     tree, or the fault, that they come to.
-/
import TapeLang.Proofs.Reading

namespace TapeLang

open TapeLang.Bracket (at? height Balanced Unpaired)

/-! ## The bytes of characters -/

namespace Encoding

/-- The bytes of the characters of a text that have some. -/
def units (e : Encoding) (t : Text) : List UInt8 := t.flatMap fun c => (e.unit? c).getD []

/-- The number of bytes before a character of a text. -/
def offset (e : Encoding) (t : Text) (k : Nat) : Nat := (e.units (t.take k)).length

theorem encodeFrom_eq_ok_iff {e : Encoding} (position : Nat) {t : Text} {bytes : List UInt8} :
    e.encodeFrom position t = .ok bytes ↔ (∀ c ∈ t, (e.unit? c).isSome) ∧ e.units t = bytes := by
  induction t generalizing position bytes with
  | nil => simp [encodeFrom, units]
  | cons c t ih =>
    rw [encodeFrom, List.forall_mem_cons, units, List.flatMap_cons]
    cases hc : e.unit? c with
    | none => simp
    | some unit =>
      show (e.encodeFrom (position + 1) t).map (unit ++ ·) = .ok bytes ↔
        ((some unit).isSome ∧ ∀ d ∈ t, (e.unit? d).isSome) ∧ unit ++ e.units t = bytes
      constructor
      · intro h
        cases ht : e.encodeFrom (position + 1) t with
        | error f =>
          rw [ht] at h
          cases h
        | ok rest =>
          rw [ht] at h
          obtain ⟨hsome, hunits⟩ := (ih (position + 1)).1 ht
          exact ⟨⟨rfl, hsome⟩, hunits ▸ Except.ok.inj h⟩
      · rintro ⟨⟨-, hsome⟩, rfl⟩
        rw [(ih (position + 1)).2 ⟨hsome, rfl⟩]
        rfl

/-- Without a signature, the bytes of a text are those of its characters. -/
theorem encode_eq_ok_iff {e : Encoding} (he : e.signature = []) {t : Text} {bytes : List UInt8} :
    e.encode t = .ok bytes ↔ (∀ c ∈ t, (e.unit? c).isSome) ∧ e.units t = bytes := by
  rw [← encodeFrom_eq_ok_iff 0, encode, he]
  cases e.encodeFrom 0 t <;> exact Iff.rfl

/-- What can be written can be written up to any character. -/
theorem encode_take {e : Encoding} (he : e.signature = []) {t : Text} {bytes : List UInt8}
    (h : e.encode t = .ok bytes) (k : Nat) :
    ∃ before, e.encode (t.take k) = .ok before ∧ before.length = e.offset t k := by
  obtain ⟨hsome, -⟩ := (encode_eq_ok_iff he).1 h
  exact ⟨_, (encode_eq_ok_iff he).2 ⟨fun c hc => hsome c (List.mem_of_mem_take hc), rfl⟩, rfl⟩

/-- All bytes of a character beyond ASCII are beyond ASCII. -/
theorem le_of_mem_utf8Bytes {n : Nat} (hlow : 0x80 ≤ n) (hhigh : n ≤ 0x10FFFF) :
    ∀ b ∈ utf8Bytes n, 0x80 ≤ b.toNat := by
  have hbyte : ∀ m, 0x80 ≤ m → m < 0x100 → 0x80 ≤ (UInt8.ofNat m).toNat := by
    intro m hm hlt
    rwa [UInt8.toNat_ofNat', Nat.mod_eq_of_lt hlt]
  unfold utf8Bytes
  rw [if_neg (by omega)]
  split
  · simp only [List.forall_mem_cons]
    exact ⟨hbyte _ (by omega) (by omega), hbyte _ (by omega) (by omega), by simp⟩
  · split
    · simp only [List.forall_mem_cons]
      exact ⟨hbyte _ (by omega) (by omega), hbyte _ (by omega) (by omega),
        hbyte _ (by omega) (by omega), by simp⟩
    · simp only [List.forall_mem_cons]
      exact ⟨hbyte _ (by omega) (by omega), hbyte _ (by omega) (by omega),
        hbyte _ (by omega) (by omega), hbyte _ (by omega) (by omega), by simp⟩

/-- An encoding in which brackets are seen among the bytes: nothing stands before a text, a bracket is one
    byte, and no other character has a byte that is a bracket. -/
structure KeepsBrackets (e : Encoding) : Prop where
  /-- Nothing stands before a text. -/
  signature : e.signature = []
  /-- The opening bracket is its byte. -/
  opening : e.unit? '[' = some [openByte]
  /-- The closing bracket is its byte. -/
  closing : e.unit? ']' = some [closeByte]
  /-- A byte that is a bracket belongs to that bracket. -/
  plain : ∀ {c : CodePoint} {bytes : List UInt8}, e.unit? c = some bytes →
    c ≠ CodePoint.ofChar '[' → c ≠ CodePoint.ofChar ']' → ∀ b ∈ bytes, b ≠ openByte ∧ b ≠ closeByte

/-- A character of one byte has a byte that is a bracket only if it is that bracket. -/
theorem plain_of_one_byte (limit : Nat) (hlimit : limit ≤ 0x100) {c : CodePoint} {bytes : List UInt8}
    (hunit : (if c.val < limit then some [UInt8.ofNat c.val] else none) = some bytes)
    (ho : c ≠ CodePoint.ofChar '[') (hc : c ≠ CodePoint.ofChar ']') :
    ∀ b ∈ bytes, b ≠ openByte ∧ b ≠ closeByte := by
  split at hunit
  · obtain rfl := Option.some.inj hunit
    have hval : (UInt8.ofNat c.val).toNat = c.val := by
      rw [UInt8.toNat_ofNat', Nat.mod_eq_of_lt (by omega)]
    refine List.forall_mem_singleton.2 ⟨?_, ?_⟩
    · intro h
      exact ho (CodePoint.eq_of_val (by rw [← hval, h]; rfl))
    · intro h
      exact hc (CodePoint.eq_of_val (by rw [← hval, h]; rfl))
  · cases hunit

/-- **ASCII, Latin-1 and UTF-8 keep brackets.** -/
theorem keepsBrackets {e : Encoding} (he : e = .utf8 ∨ e = .ascii ∨ e = .latin1) : e.KeepsBrackets := by
  rcases he with rfl | rfl | rfl
  · refine ⟨rfl, rfl, rfl, ?_⟩
    intro c bytes hunit ho hc
    rw [unit?] at hunit
    split at hunit
    · cases hunit
    · obtain rfl := Option.some.inj hunit
      rcases Nat.lt_or_ge c.val 0x80 with hlow | hhigh
      · rw [utf8Bytes, if_pos hlow]
        exact plain_of_one_byte 0x80 (by decide) (if_pos hlow) ho hc
      · -- both brackets are below 128
        intro b hb
        have hbeyond := le_of_mem_utf8Bytes hhigh c.le_max b hb
        constructor
        · rintro rfl
          exact absurd hbeyond (by decide)
        · rintro rfl
          exact absurd hbeyond (by decide)
  · exact ⟨rfl, rfl, rfl, plain_of_one_byte _ (by decide)⟩
  · exact ⟨rfl, rfl, rfl, plain_of_one_byte _ (by decide)⟩

end Encoding

/-! ## The characters as a source -/

/-- The number of a code point, as a value of a source. -/
def CodePoint.code (c : CodePoint) : Value := .int c.val

/-- The source that a text is to a reader of characters. -/
def Text.codes (t : Text) : List Value := t.map CodePoint.code

/-- The bytes of the character whose number is given. -/
def Encoding.bytesOf (e : Encoding) (code : Value) : List UInt8 :=
  ((code.whole?.bind CodePoint.ofInt?).bind e.unit?).getD []

theorem Encoding.bytesOf_code (e : Encoding) (c : CodePoint) : e.bytesOf c.code = (e.unit? c).getD [] := by
  have hofInt : CodePoint.ofInt? (c.val : Int) = some c := dif_pos c.le_max
  rw [bytesOf, CodePoint.code]
  show (((CodePoint.ofInt? (c.val : Int))).bind e.unit?).getD [] = _
  rw [hofInt, Option.bind_some]

/-- The character that a bracket is. -/
theorem CodePoint.of?_code_eq_none {c : CodePoint} (h : Bracket.of? c.code = none) :
    c ≠ CodePoint.ofChar '[' ∧ c ≠ CodePoint.ofChar ']' := by
  constructor
  · rintro rfl
    cases h
  · rintro rfl
    cases h

theorem CodePoint.of?_code_eq_opening {c : CodePoint} (h : Bracket.of? c.code = some .opening) :
    c = CodePoint.ofChar '[' := by
  have hval : (c.val : Int) = openCode := Option.some.inj (Bracket.of?_eq_opening_iff.1 h)
  exact eq_of_val (Int.ofNat.inj hval)

theorem CodePoint.of?_code_eq_closing {c : CodePoint} (h : Bracket.of? c.code = some .closing) :
    c = CodePoint.ofChar ']' := by
  have hval : (c.val : Int) = closeCode := Option.some.inj (Bracket.of?_eq_closing_iff.1 h)
  exact eq_of_val (Int.ofNat.inj hval)

/-! ## Spelling -/

/-- Bytes as commands, from an offset on. -/
def Program.commandsFrom (k : Nat) : List UInt8 → List Node
  | [] => []
  | b :: bytes => .command (byteCode b) (some (k : Int)) :: commandsFrom (k + 1) bytes

mutual

/-- A node of the tree of a text with its characters spelled: a character is one command for each of its
    bytes, and everything stands at the byte with which the character begins that it stands at. -/
def Node.spelled (e : Encoding) (t : Text) : Node → List Node
  | .command code position => Program.commandsFrom (e.offset t (position.getD 0).toNat) (e.bytesOf code)
  | .loop body position => [.loop (Program.spelled e t body) (position.map fun i => (e.offset t i.toNat : Int))]

/-- The tree of a text with its characters spelled. -/
def Program.spelled (e : Encoding) (t : Text) : List Node → List Node
  | [] => []
  | n :: rest => n.spelled e t ++ Program.spelled e t rest

end

/-- A level under construction with its characters spelled; the latest node is the first. -/
def Program.spelledBack (e : Encoding) (t : Text) (level : List Node) : List Node :=
  (spelled e t level.reverse).reverse

/-- A loop under construction with its characters spelled. -/
def Unclosed.spelled (e : Encoding) (t : Text) (u : Unclosed) : Unclosed :=
  ⟨u.position.map fun i => (e.offset t i.toNat : Int), Program.spelledBack e t u.before⟩

/-- The fault at a character, told at its first byte. -/
def Fault.spelled (e : Encoding) (t : Text) : Fault → Fault
  | .strayClose (.int i) => .strayClose (.int (e.offset t i.toNat))
  | .openLoop (.int i) => .openLoop (.int (e.offset t i.toNat))
  | f => f

namespace Program

variable {e : Encoding} {t : Text}

theorem spelled_append (p q : List Node) : spelled e t (p ++ q) = spelled e t p ++ spelled e t q := by
  induction p with
  | nil => rfl
  | cons n rest ih =>
    show n.spelled e t ++ spelled e t (rest ++ q) = n.spelled e t ++ spelled e t rest ++ spelled e t q
    rw [ih, List.append_assoc]

/-- One more node on a level. -/
theorem spelledBack_cons (n : Node) (level : List Node) :
    spelledBack e t (n :: level) = (n.spelled e t).reverse ++ spelledBack e t level := by
  have hone : spelled e t [n] = n.spelled e t := List.append_nil _
  rw [spelledBack, List.reverse_cons, spelled_append, hone, List.reverse_append, spelledBack]

/-- A byte that is the byte of neither bracket is no bracket. -/
theorem of?_byteCode_eq_none {b : UInt8} (ho : b ≠ openByte) (hc : b ≠ closeByte) :
    Bracket.of? (byteCode b) = none := by
  have hsame : ∀ d : UInt8, (byteCode b).whole? = some (d.toNat : Int) → b = d :=
    fun d h => UInt8.toNat_inj.1 (Int.ofNat.inj (Option.some.inj h))
  have hopen : ¬ (byteCode b).whole? = some openCode := fun h => ho (hsame openByte h)
  have hclose : ¬ (byteCode b).whole? = some closeCode := fun h => hc (hsame closeByte h)
  rw [Bracket.of?, if_neg hopen, if_neg hclose]

/-- Bytes that are no brackets are put on the level as commands. -/
theorem readFrom_commands {bytes : List UInt8} (h : ∀ b ∈ bytes, b ≠ openByte ∧ b ≠ closeByte) (k : Nat)
    (us : List Unclosed) (level : List Node) (rest : List Value) :
    readFrom k us level (bytes.map byteCode ++ rest) =
      readFrom (k + bytes.length) us ((commandsFrom k bytes).reverse ++ level) rest := by
  induction bytes generalizing k level with
  | nil => rfl
  | cons b bytes ih =>
    obtain ⟨⟨ho, hc⟩, hbytes⟩ := List.forall_mem_cons.1 h
    have hplain := of?_byteCode_eq_none ho hc
    have hlength : k + (b :: bytes).length = k + 1 + bytes.length := by
      rw [List.length_cons]
      omega
    rw [List.map_cons, List.cons_append, readFrom_plain hplain, ih hbytes, hlength, commandsFrom,
      List.reverse_cons, List.append_assoc]
    rfl

/-- The offset behind a character. -/
theorem offset_succ {k : Nat} {c : CodePoint} {rest : Text} (h : t.drop k = c :: rest) :
    e.offset t (k + 1) = e.offset t k + ((e.unit? c).getD []).length := by
  have hc : t[k]? = some c := by rw [← List.head?_drop, h, List.head?_cons]
  rw [Encoding.offset, List.take_add_one, hc, Encoding.units, List.flatMap_append, List.length_append]
  simp [Encoding.offset, Encoding.units]

/-- **The crux.**  A reader of bytes comes to what a reader of characters comes to, spelled. -/
theorem readFrom_spelled (he : e.KeepsBrackets) {k : Nat} {us : List Unclosed} {level : List Node}
    {rest : Text} (hrest : t.drop k = rest) (hunits : ∀ c ∈ rest, (e.unit? c).isSome) :
    readFrom (e.offset t k) (us.map (Unclosed.spelled e t)) (spelledBack e t level)
        ((e.units rest).map byteCode) =
      ((readFrom k us level rest.codes).map (spelled e t)).mapError (Fault.spelled e t) := by
  induction rest generalizing k us level with
  | nil =>
    cases us with
    | nil =>
      show Except.ok (spelledBack e t level).reverse = Except.ok _
      rw [spelledBack, List.reverse_reverse]
    | cons u us =>
      obtain ⟨position, before⟩ := u
      cases position <;> rfl
  | cons c rest ih =>
    obtain ⟨hc, hmore⟩ := List.forall_mem_cons.1 hunits
    obtain ⟨unit, hunit⟩ := Option.isSome_iff_exists.1 hc
    have hnext : t.drop (k + 1) = rest := by rw [← List.tail_drop, hrest, List.tail_cons]
    have hoffset := offset_succ (e := e) hrest
    have hsource : (e.units (c :: rest)).map byteCode = unit.map byteCode ++ (e.units rest).map byteCode := by
      rw [Encoding.units, List.flatMap_cons, hunit, Option.getD_some, List.map_append]
      rfl
    rw [hunit, Option.getD_some] at hoffset
    have hcodes : Text.codes (c :: rest) = c.code :: Text.codes rest := rfl
    rw [hsource, hcodes]
    rcases hb : Bracket.of? c.code with _ | _ | _
    · obtain ⟨ho, hcl⟩ := CodePoint.of?_code_eq_none hb
      rw [readFrom_plain hb, ← ih hnext hmore, spelledBack_cons, readFrom_commands (he.plain hunit ho hcl),
        hoffset, Node.spelled, e.bytesOf_code, hunit]
      rfl
    · obtain rfl := CodePoint.of?_code_eq_opening hb
      obtain rfl := Option.some.inj (hunit.symm.trans he.opening)
      rw [readFrom_opening hb, ← ih hnext hmore, hoffset]
      exact readFrom_opening rfl
    · obtain rfl := CodePoint.of?_code_eq_closing hb
      obtain rfl := Option.some.inj (hunit.symm.trans he.closing)
      cases us with
      | nil =>
        rw [readFrom_stray hb]
        exact readFrom_stray rfl
      | cons u us =>
        rw [readFrom_closing hb, ← ih hnext hmore, hoffset, spelledBack_cons]
        show readFrom _ (u.spelled e t :: us.map (Unclosed.spelled e t)) _ (byteCode closeByte :: _) = _
        rw [readFrom_closing rfl, spelledBack, List.reverse_reverse]
        rfl

/-! ## The theorem -/

/-- A text in an encoding that keeps brackets is read as its characters are, spelled. -/
theorem ofValue_text (he : e.KeepsBrackets) {name : Text} {bytes : List UInt8}
    (hname : Encoding.named name = .ok e) (hbytes : e.encode t = .ok bytes) :
    Program.ofValue name (.text t) =
      ((Program.read t.codes).map (spelled e t)).mapError fun f => .fault (f.spelled e t) := by
  obtain ⟨hsome, rfl⟩ := (Encoding.encode_eq_ok_iff he.signature).1 hbytes
  have hencoded : t.encoded name = .ok (e.units t) := (Text.encoded_of_named hname t).trans hbytes
  have hvalue : Program.ofValue name (.text t) =
      (Program.read ((e.units t).map byteCode)).mapError Failure.fault := by
    show (do let source ← ((t.encoded name).mapError Failure.encoding).map (List.map byteCode); _) = _
    rw [hencoded]
    rfl
  have hspelled : readFrom (e.offset t 0) ([].map (Unclosed.spelled e t)) (spelledBack e t [])
      ((e.units t).map byteCode) = _ := readFrom_spelled he List.drop_zero hsome
  have hread : Program.read ((e.units t).map byteCode) =
      ((Program.read t.codes).map (spelled e t)).mapError (Fault.spelled e t) := hspelled
  rw [hvalue, hread]
  show (((Program.read t.codes).map (spelled e t)).mapError (Fault.spelled e t)).mapError Failure.fault = _
  cases Program.read t.codes <;> rfl

theorem length_codes (t : Text) : t.codes.length = t.length := List.length_map _

/-- **Texts are read as their characters suggest.**  Let a text have bytes in UTF-8, ASCII or Latin-1, under any of
    the names that these go by here.  It is a program exactly if its brackets are balanced.  Then there is
    one tree that stands in the characters, and the program is that tree with every other character replaced
    by its bytes.  If some beginning closes more than it opens, the text is refused at the end of the
    shortest one, and if none does and the text opens more than it closes, at its last bracket without a
    partner; the position is the number of bytes of the characters before. -/
theorem text_read_by_characters {e : Encoding} (he : e = .utf8 ∨ e = .ascii ∨ e = .latin1) {name t : Text}
    {bytes : List UInt8} (hname : Encoding.named name = .ok e) (hbytes : e.encode t = .ok bytes) :
    ((∃ p, Program.ofValue name (.text t) = .ok p) ↔ Balanced t.codes 0 t.length) ∧
    (Balanced t.codes 0 t.length →
      ∃ q, Stands t.codes q 0 t.length ∧ (∀ q', Stands t.codes q' 0 t.length → q' = q) ∧
        Program.ofValue name (.text t) = .ok (spelled e t q)) ∧
    ((∃ k, height t.codes k < 0) →
      ∃ k before, height t.codes (k + 1) < 0 ∧ (∀ j ≤ k, 0 ≤ height t.codes j) ∧
        e.encode (t.take k) = .ok before ∧
        Program.ofValue name (.text t) = .error (.fault (.strayClose (.int before.length)))) ∧
    ((∀ k, 0 ≤ height t.codes k) → 0 < height t.codes t.length →
      ∃ i before, Unpaired t.codes i ∧ (∀ j, Unpaired t.codes j → j ≤ i) ∧
        e.encode (t.take i) = .ok before ∧
        Program.ofValue name (.text t) = .error (.fault (.openLoop (.int before.length)))) := by
  have hkeeps : e.KeepsBrackets := Encoding.keepsBrackets he
  have hbefore := Encoding.encode_take hkeeps.signature hbytes
  have hvalue := ofValue_text hkeeps hname hbytes
  rw [← length_codes]
  have hreads := read_reads t.codes
  generalize Program.read t.codes = r at hreads hvalue
  cases hreads with
  | @tree q h =>
    replace hvalue : Program.ofValue name (.text t) = .ok (spelled e t q) := hvalue
    refine ⟨⟨fun _ => h.balanced, fun _ => ⟨_, hvalue⟩⟩,
      fun _ => ⟨q, h, fun q' h' => h'.unique h, hvalue⟩, ?_, ?_⟩
    · rintro ⟨k, hk⟩
      exact absurd (h.height.2 k) (Int.not_le.2 hk)
    · intro _ hpos
      exact absurd h.height.1 (Int.ne_of_gt hpos)
  | @stray level k h hc =>
    replace hvalue : Program.ofValue name (.text t) = .error (.fault (.strayClose (.int (e.offset t k)))) :=
      hvalue
    obtain ⟨hneg, hnonneg⟩ := h.height_stray hc
    have hnot : ¬ Balanced t.codes 0 t.codes.length := fun hb => absurd (hb.whole.2 _) (Int.not_le.2 hneg)
    obtain ⟨before, hencoded, hlength⟩ := hbefore k
    refine ⟨⟨?_, fun hb => absurd hb hnot⟩, fun hb => absurd hb hnot, ?_, ?_⟩
    · rintro ⟨p, hp⟩
      cases hvalue.symm.trans hp
    · intro _
      exact ⟨k, before, hneg, hnonneg, hencoded, hlength ▸ hvalue⟩
    · intro hall _
      exact absurd (hall (k + 1)) (Int.not_le.2 hneg)
  | @unclosed us u level h =>
    obtain ⟨i, hu, hi, hlast⟩ := h.unpaired
    obtain ⟨hpos, hnonneg⟩ := h.height
    rw [hu] at hvalue
    replace hvalue : Program.ofValue name (.text t) = .error (.fault (.openLoop (.int (e.offset t i)))) :=
      hvalue
    have hnot : ¬ Balanced t.codes 0 t.codes.length := fun hb => absurd hb.whole.1 (Int.ne_of_gt hpos)
    obtain ⟨before, hencoded, hlength⟩ := hbefore i
    refine ⟨⟨?_, fun hb => absurd hb hnot⟩, fun hb => absurd hb hnot, ?_, ?_⟩
    · rintro ⟨p, hp⟩
      cases hvalue.symm.trans hp
    · rintro ⟨k, hk⟩
      exact absurd (hnonneg k) (Int.not_le.2 hk)
    · intro _ _
      exact ⟨i, before, hi, hlast, hencoded, hlength ▸ hvalue⟩

/-- In UTF-8, `é[€]` is two commands and a loop around three, at offset 2. -/
theorem text_read_by_characters_in_loop :
    Encoding.named "utf-8" = .ok .utf8 ∧
    Encoding.utf8.encode "é[€]" = .ok [0xC3, 0xA9, 91, 0xE2, 0x82, 0xAC, 93] ∧
    Program.ofValue "utf-8" (.text "é[€]") = .ok [.command (.int 0xC3) (some 0),
      .command (.int 0xA9) (some 1), .loop [.command (.int 0xE2) (some 3), .command (.int 0x82) (some 4),
        .command (.int 0xAC) (some 5)] (some 2)] := by
  have hname : Encoding.named "utf-8" = .ok .utf8 := rfl
  have hbytes : Encoding.utf8.encode "é[€]" = .ok [0xC3, 0xA9, 91, 0xE2, 0x82, 0xAC, 93] := rfl
  have hstands : Stands (Text.codes "é[€]") [.command (.int 0xE9) (some 0),
      .loop [.command (.int 0x20AC) (some 2)] (some 1)] 0 4 :=
    ⟨1, ⟨rfl, rfl, rfl, rfl⟩, 4, ⟨rfl, rfl, 3, ⟨3, ⟨rfl, rfl, rfl, rfl⟩, rfl⟩, rfl, rfl⟩, rfl⟩
  obtain ⟨-, htree, -, -⟩ := text_read_by_characters (.inl rfl) hname hbytes
  obtain ⟨q, -, hunique, hvalue⟩ := htree hstands.balanced
  obtain rfl := hunique _ hstands
  exact ⟨hname, hbytes, hvalue⟩

end Program

end TapeLang
