/-
  Messages — the message about a command that there is not tells the command and its place.

  1. **Numerals** — a numeral is worth its number, so numbers that are written alike are the same, in base
     ten and in base sixteen, with zeros before them or without.  A minus sign is no digit, so it tells
     the negative ones from the others.

  2. **Commands (`Fault.describe_inj`)** — a command that is shown as a sign begins with a quotation mark,
     one that is shown by its number with a zero: so a digit or an `x` as a sign is no part of a number.

  3. **The crux (`Text.cut_inj`)** — no command is shown with a space in it, and a place begins with a space.
     So the first space behind the command is where the place begins, and if there is none, the place is
     left out.

  All that is written is printable, whatever the command is, and no control character is
  (`CodePoint.isControl_of_isPrintable`).
-/
import TapeLang.Proofs.Notation

namespace TapeLang

/-! ## Control characters -/

namespace CodePoint

/-- The control characters: those below the space, and those from U+007F to U+009F. -/
def isControl (c : CodePoint) : Bool := c.val < 0x20 || (0x7F ≤ c.val && c.val < 0xA0)

theorem isControl_eq_false_iff {c : CodePoint} :
    c.isControl = false ↔ 0x20 ≤ c.val ∧ (c.val < 0x7F ∨ 0xA0 ≤ c.val) := by
  simp only [isControl, Bool.or_eq_false_iff, Bool.and_eq_false_iff, decide_eq_false_iff_not]
  omega

/-- No control character is printable. -/
theorem isControl_of_isPrintable {c : CodePoint} (h : c.isPrintable = true) : c.isControl = false := by
  rw [isControl_eq_false_iff]
  by_cases hlow : c.val < 0x7F
  · rw [isPrintable, if_pos hlow] at h
    exact ⟨of_decide_eq_true h, .inl hlow⟩
  · rw [isPrintable, if_neg hlow, Bool.not_eq_true'] at h
    -- the second range of the table is that of the later control characters
    have hsecond : (0x7F, 0xA0) ∈ hiddenRanges := List.mem_cons_of_mem _ List.mem_cons_self
    have hrange := List.any_eq_false.1 h _ hsecond
    simp only [Bool.and_eq_true, decide_eq_true_eq] at hrange
    omega

end CodePoint

/-! ## Numerals -/

namespace Text

theorem natural_inj {m n : Nat} (h : natural m = natural n) : m = n := by
  have hworth : ∀ k, worth 10 (natural k) = k := fun k => worth_toDigits (by decide) (by decide) k
  rw [← hworth m, h, hworth]

theorem hex_inj {width width' m n : Nat} (h : hex width m = hex width' n) : m = n := by
  rw [← worth_hex width m, h, worth_hex]

/-- An integer by its digits, those of a negative one behind a minus sign. -/
def signed (digits behindMinus : Nat → Text) : Int → Text
  | .ofNat n => digits n
  | .negSucc n => "-" ++ behindMinus (n + 1)

section Signed

variable {digits behindMinus : Nat → Text}

theorem of_mem_signed (hdigits : ∀ n, ∀ c ∈ digits n, c ∈ quotingSigns)
    (hminus : ∀ n, ∀ c ∈ behindMinus n, c ∈ quotingSigns) {n : Int} {c : CodePoint}
    (h : c ∈ signed digits behindMinus n) : c = CodePoint.ofChar '-' ∨ c ∈ quotingSigns := by
  cases n with
  | ofNat n => exact .inr (hdigits n c h)
  | negSucc n =>
    rcases List.mem_cons.1 h with h | h
    · exact .inl h
    · exact .inr (hminus (n + 1) c h)

/-- **A minus sign is no digit**, so integers that are written alike are the same if their digits tell them. -/
theorem signed_inj (hsigns : ∀ n, ∀ c ∈ digits n, c ∈ quotingSigns)
    (hdigits : ∀ {m n}, digits m = digits n → m = n)
    (hminus : ∀ {m n}, behindMinus m = behindMinus n → m = n) {m n : Int}
    (h : signed digits behindMinus m = signed digits behindMinus n) : m = n := by
  have hnone : ∀ k t, digits k ≠ "-" ++ t := by
    intro k t hk
    have hmem : CodePoint.ofChar '-' ∈ digits k := hk ▸ List.mem_cons_self
    exact absurd (hsigns k _ hmem) (by decide)
  match m, n with
  | .ofNat m, .ofNat n => rw [hdigits h]
  | .negSucc m, .negSucc n =>
    have hnext := hminus (List.append_cancel_left h)
    rw [Nat.succ.inj hnext]
  | .ofNat m, .negSucc n => exact absurd h (hnone m _)
  | .negSucc m, .ofNat n => exact absurd h.symm (hnone n _)

end Signed

theorem integer_eq_signed (n : Int) : integer n = signed natural natural n := by
  cases n with
  | ofNat n => rfl
  | negSucc n => rfl

/-- An integer is written with digits and a minus sign. -/
theorem of_mem_integer {n : Int} {c : CodePoint} (h : c ∈ integer n) :
    c = CodePoint.ofChar '-' ∨ c ∈ quotingSigns := by
  rw [integer_eq_signed] at h
  exact of_mem_signed (fun _ _ => of_mem_natural) (fun _ _ => of_mem_natural) h

theorem integer_inj {m n : Int} (h : integer m = integer n) : m = n := by
  rw [integer_eq_signed, integer_eq_signed] at h
  exact signed_inj (fun _ _ => of_mem_natural) natural_inj natural_inj h

/-- **The crux.**  Texts without a sign, each followed by nothing or by that sign and more, are followed by the
    same if they are the same with what follows. -/
theorem cut_inj {x : CodePoint} {s t u v : Text} (hs : x ∉ s) (ht : x ∉ t) (hu : ∀ y ∈ u.head?, y = x)
    (hv : ∀ y ∈ v.head?, y = x) (h : s ++ u = t ++ v) : s = t ∧ u = v := by
  induction s generalizing t with
  | nil =>
    cases t with
    | nil => exact ⟨rfl, h⟩
    | cons z t =>
      obtain rfl : u = z :: t ++ v := h
      obtain rfl : z = x := hu z rfl
      exact absurd List.mem_cons_self ht
  | cons y s ih =>
    cases t with
    | nil =>
      obtain rfl : y :: s ++ u = v := h
      obtain rfl : y = x := hv y rfl
      exact absurd List.mem_cons_self hs
    | cons z t =>
      obtain ⟨rfl, hrest⟩ := List.cons.inj h
      obtain ⟨rfl, rfl⟩ := ih (List.not_mem_of_not_mem_cons hs) (List.not_mem_of_not_mem_cons ht) hrest
      exact ⟨rfl, rfl⟩

end Text

namespace Fault

/-! ## Commands -/

/-- A command by its number, as it stands behind the mark of the base. -/
def numbered (code : Int) : Text := Text.signed (Text.hex 2) (Text.hex 1) code

theorem numbered_inj {c d : Int} (h : numbered c = numbered d) : c = d :=
  Text.signed_inj (fun _ _ => Text.of_mem_hex) Text.hex_inj Text.hex_inj h

/-- A command is shown in one of two forms: as a visible sign between marks, or by its number. -/
theorem describe_cases (code : Int) :
    (∃ c : CodePoint, code = c.val ∧ 0x20 < c.val ∧
      describe code = [CodePoint.ofChar '\x22', c, CodePoint.ofChar '\x22']) ∨
    describe code = "0x" ++ numbered code := by
  cases code with
  | ofNat n =>
    by_cases hvisible : 0x20 < n ∧ n < 0x7F
    · have hmax : n ≤ 0x10FFFF := by omega
      refine .inl ⟨⟨n, hmax⟩, rfl, hvisible.1, ?_⟩
      rw [describe, if_pos hvisible, CodePoint.ofNat?, dif_pos hmax]
      rfl
    · exact .inr (if_neg hvisible)
  | negSucc n => exact .inr rfl

/-- **Commands that are shown alike are the same.** -/
theorem describe_inj {c d : Int} (h : describe c = describe d) : c = d := by
  rcases describe_cases c with ⟨x, hx, -, hc⟩ | hc
  · rcases describe_cases d with ⟨y, hy, -, hd⟩ | hd
    · rw [hc, hd] at h
      obtain rfl : x = y := (List.cons.inj (List.cons.inj h).2).1
      rw [hx, hy]
    · have hfirst : some (CodePoint.ofChar '\x22') = some (CodePoint.ofChar '0') :=
        congrArg List.head? (hc.symm.trans (h.trans hd))
      exact absurd hfirst (by decide)
  · rcases describe_cases d with ⟨y, hy, -, hd⟩ | hd
    · have hfirst : some (CodePoint.ofChar '0') = some (CodePoint.ofChar '\x22') :=
        congrArg List.head? (hc.symm.trans (h.trans hd))
      exact absurd hfirst (by decide)
    · rw [hc, hd] at h
      exact numbered_inj (List.append_cancel_left h)

/-- No command is shown with a space. -/
theorem space_not_mem_describe (code : Int) : CodePoint.ofChar ' ' ∉ describe code := by
  intro h
  rcases describe_cases code with ⟨c, -, hvisible, hcode⟩ | hcode
  · rw [hcode] at h
    rcases List.mem_cons.1 h with h | h
    · exact absurd h (by decide)
    · rcases List.mem_cons.1 h with rfl | h
      · exact absurd hvisible (by decide)
      · exact absurd (List.mem_singleton.1 h) (by decide)
  · rw [hcode] at h
    rcases List.mem_append.1 h with h | h
    · exact absurd h (by decide)
    · rcases Text.of_mem_signed (fun _ _ => Text.of_mem_hex) (fun _ _ => Text.of_mem_hex) h with h | h
      · exact absurd h (by decide)
      · exact absurd h (by decide)

end Fault

/-! ## Places -/

namespace Value

/-- What says where a command stands: an integer, or nothing at all. -/
def IsOffset (v : Value) : Prop := v = .null ∨ v.integer?.isSome

/-- A truth value is written with a letter that no integer is written with. -/
theorem integer_ne_bool (n : Int) (b : Bool) : Text.integer n ≠ (bool b).shown := by
  intro h
  have hfirst : ∃ c ∈ (bool b).shown, c ≠ CodePoint.ofChar '-' ∧ c ∉ Text.quotingSigns := by
    cases b with
    | false => exact ⟨CodePoint.ofChar 'F', by decide⟩
    | true => exact ⟨CodePoint.ofChar 'T', by decide⟩
  obtain ⟨c, hc, hminus, hsigns⟩ := hfirst
  rw [← h] at hc
  rcases Text.of_mem_integer hc with hc | hc
  · exact hminus hc
  · exact hsigns hc

/-- Integers, and truth values in their place, are told by their texts. -/
theorem shown_inj_of_integers {v w : Value} (hv : v.integer?.isSome) (hw : w.integer?.isSome)
    (h : v.shown = w.shown) : v = w := by
  match v, w with
  | .int m, .int n => rw [Text.integer_inj h]
  | .bool false, .bool false => rfl
  | .bool true, .bool true => rfl
  | .bool false, .bool true => exact absurd h (by decide)
  | .bool true, .bool false => exact absurd h (by decide)
  | .int m, .bool b => exact absurd h (integer_ne_bool m b)
  | .bool b, .int n => exact absurd h.symm (integer_ne_bool n b)

/-- An offset is printable. -/
theorem printable_shown_of_integer {v : Value} (hv : v.integer?.isSome) : v.shown.Printable := by
  match v with
  | .int n => exact .integer n
  | .bool false => decide
  | .bool true => decide

end Value

namespace Fault

/-- Where a place is said, it is said behind a space. -/
theorem head_place (p : Value) : ∀ x ∈ (place p).head?, x = CodePoint.ofChar ' ' := by
  intro x hx
  cases p with
  | null => cases hx
  | _ =>
    obtain rfl := Option.some.inj hx
    rfl

theorem place_of_integer {p : Value} (hp : p.integer?.isSome) : place p = " at offset " ++ p.shown := by
  cases p with
  | null => cases hp
  | _ => rfl

/-- **Places that are said alike are the same.** -/
theorem place_inj {p q : Value} (hp : p.IsOffset) (hq : q.IsOffset) (h : place p = place q) : p = q := by
  rcases hp with rfl | hp
  · rcases hq with rfl | hq
    · rfl
    · rw [place_of_integer hq] at h
      cases h
  · rcases hq with rfl | hq
    · rw [place_of_integer hp] at h
      cases h
    · rw [place_of_integer hp, place_of_integer hq] at h
      exact Value.shown_inj_of_integers hp hq (List.append_cancel_left h)

theorem printable_place {p : Value} (hp : p.IsOffset) : (place p).Printable := by
  rcases hp with rfl | hp
  · exact .nil
  · rw [place_of_integer hp]
    exact .append (by decide) (Value.printable_shown_of_integer hp)

/-! ## The theorem -/

/-- What varies in the message stands between what does not. -/
theorem undefinedMessage_inj {c d : Int} {p q : Value} (hp : p.IsOffset) (hq : q.IsOffset)
    (h : undefinedMessage c p = undefinedMessage d q) : c = d ∧ p = q := by
  have hfront : "Undefined command " ++ describe c ++ place p = "Undefined command " ++ describe d ++ place q :=
    List.append_cancel_right (List.append_cancel_right h)
  rw [List.append_assoc, List.append_assoc] at hfront
  have hmiddle : describe c ++ place p = describe d ++ place q := List.append_cancel_left hfront
  obtain ⟨hcommand, hplace⟩ := Text.cut_inj (space_not_mem_describe c) (space_not_mem_describe d)
    (head_place p) (head_place q) hmiddle
  exact ⟨describe_inj hcommand, place_inj hp hq hplace⟩

/-- **The message about a command that there is not tells its cause.**  Two such messages are the same exactly
    if they are about the same number at the same offset, or at none, however long the offset is, and no
    such message holds a line break or another control character.  The message is that of the fault, of
    which there is one if the offset can be written. -/
theorem message_tells_cause {c d p q : Value} (hc : c.integer?.isSome) (hd : d.integer?.isSome)
    (hp : p.IsOffset) (hq : q.IsOffset) :
    (undefinedMessage (c.integer?.get hc) p = undefinedMessage (d.integer?.get hd) q ↔
      c.integer? = d.integer? ∧ p = q) ∧
    (∀ x ∈ undefinedMessage (c.integer?.get hc) p, x.breaksLine = false ∧ x.isControl = false) ∧
    (∀ hwp : p.isWritable, (undefined c p hc hwp).message = undefinedMessage (c.integer?.get hc) p) ∧
    ∀ (hwp : p.isWritable) (hwq : q.isWritable),
      (undefined c p hc hwp).message = (undefined d q hd hwq).message ↔ c.integer? = d.integer? ∧ p = q := by
  have hiff : undefinedMessage (c.integer?.get hc) p = undefinedMessage (d.integer?.get hd) q ↔
      c.integer? = d.integer? ∧ p = q := by
    constructor
    · intro h
      obtain ⟨hcommand, hplace⟩ := undefinedMessage_inj hp hq h
      exact ⟨Option.get_inj.1 hcommand, hplace⟩
    · rintro ⟨hcommand, rfl⟩
      simp only [hcommand]
  refine ⟨hiff, fun x hx => ?_, fun _ => rfl, fun _ _ => hiff⟩
  have hprintable := printable_undefinedMessage (c.integer?.get hc) (printable_place hp) x hx
  exact ⟨CodePoint.breaksLine_of_isPrintable hprintable, CodePoint.isControl_of_isPrintable hprintable⟩

/-- A digit shown as a sign, at no offset, and its number with a minus sign, at the first offset. -/
theorem message_tells_cause_of_digit :
    (Value.int 48).integer?.isSome ∧ (Value.int (-48)).integer?.isSome ∧
    Value.IsOffset .null ∧ Value.IsOffset (.int 0) ∧
    (undefined (.int 48) .null rfl rfl).message ≠ (undefined (.int (-48)) (.int 0) rfl rfl).message ∧
    ∀ x ∈ undefinedMessage 48 .null, x.breaksLine = false ∧ x.isControl = false := by
  have hnone : Value.IsOffset .null := .inl rfl
  have hstart : Value.IsOffset (.int 0) := .inr rfl
  obtain ⟨-, hsigns, -, hiff⟩ :=
    message_tells_cause (c := .int 48) (d := .int (-48)) rfl rfl hnone hstart
  refine ⟨rfl, rfl, hnone, hstart, ?_, hsigns⟩
  intro h
  have hsame := ((hiff rfl rfl).1 h).1
  exact absurd hsame (by decide)

end Fault

end TapeLang
