/-
  Lines — what is written as a line stays one line.

  A text is *printable* (`Text.Printable`) if each of its code points is.  No line break is printable,
  neither the line feed nor any of the others that a reader may take for the end of a line, so a printable
  text is one line.  Printable texts are closed under everything a line is put together with: numerals,
  padding, joining, and above all the written form of a text, which is printable whatever the text is.

  The crux is `CodePoint.of_mem_escaped`: a code point that may not stand as itself is written by letters and
  digits, and the signs of quoting are a few (`Text.quotingSigns`), all of them printable.
-/
import TapeLang.Fault

namespace TapeLang

/-! ## Line breaks -/

namespace CodePoint

/-- The code points that end a line, for one reader of text or another. -/
def breaksLine (c : CodePoint) : Bool :=
  [0x0A, 0x0B, 0x0C, 0x0D, 0x1C, 0x1D, 0x1E, 0x85, 0x2028, 0x2029].contains c.val

/-- No line break is printable. -/
theorem breaksLine_of_isPrintable {c : CodePoint} (h : c.isPrintable = true) :
    c.breaksLine = false := by
  -- only the number of the code point counts, and there are ten to look at
  have hnone : ∀ n ∈ [0x0A, 0x0B, 0x0C, 0x0D, 0x1C, 0x1D, 0x1E, 0x85, 0x2028, 0x2029],
      ∀ hn : n ≤ 0x10FFFF, (CodePoint.mk n hn).isPrintable = false := by decide +kernel
  cases hbreak : c.breaksLine with
  | false => rfl
  | true =>
    have hhidden := hnone c.val (List.contains_iff_mem.1 hbreak) c.le_max
    rw [h] at hhidden
    cases hhidden

/-- The visible signs of ASCII and the space are printable. -/
theorem isPrintable_of_ascii {c : CodePoint} (hlow : 0x20 ≤ c.val) (hhigh : c.val < 0x7F) :
    c.isPrintable = true := by
  rw [isPrintable, if_pos hhigh]
  exact decide_eq_true hlow

end CodePoint

/-! ## The signs of quoting -/

namespace Text

/-- The signs that numerals and written forms hold besides those of a text: marks, the letters of escapes, and
    digits. -/
def quotingSigns : Text := "'\"\\nrtxuU0123456789abcdef"

theorem printable_of_mem_quotingSigns : ∀ c ∈ quotingSigns, c.isPrintable = true := by decide

/-- A numeral is one digit, or a numeral and one digit more. -/
theorem numeral_induction {base : Nat} (hbase : 1 < base) {P : Nat → List Char → Prop}
    (single : ∀ d < base, P d [Nat.digitChar d])
    (behind : ∀ n d, d < base → P n (Nat.toDigits base n) →
      P (n * base + d) (Nat.toDigits base n ++ [Nat.digitChar d])) (n : Nat) :
    P n (Nat.toDigits base n) := by
  induction n using Nat.strongRecOn with
  | ind n ih =>
    rcases Nat.lt_or_ge n base with hn | hn
    · rw [Nat.toDigits_of_lt_base hn]
      exact single n hn
    · have hless : n / base < n := Nat.div_lt_self (by omega) hbase
      have hlast : n % base < base := Nat.mod_lt n (by omega)
      have hmore := behind (n / base) (n % base) hlast (ih _ hless)
      rwa [Nat.div_add_mod', ← Nat.toDigits_of_base_le hbase hn] at hmore

/-- A numeral is written with digits, in every base that has them. -/
theorem of_mem_toDigits {base : Nat} (hbase : 1 < base) (hdigits : base ≤ 16) (n : Nat) :
    ∀ c ∈ (Nat.toDigits base n).map CodePoint.ofChar, c ∈ quotingSigns := by
  have hdigit : ∀ d < 16, CodePoint.ofChar (Nat.digitChar d) ∈ quotingSigns := by decide
  refine numeral_induction hbase (P := fun _ ds => ∀ c ∈ ds.map CodePoint.ofChar, c ∈ quotingSigns) ?_ ?_ n
  · intro d hd
    exact List.forall_mem_singleton.2 (hdigit d (by omega))
  · intro n d hd ih
    rw [List.map_append]
    exact List.forall_mem_append.2 ⟨ih, List.forall_mem_singleton.2 (hdigit d (by omega))⟩

theorem of_mem_natural {n : Nat} {c : CodePoint} (h : c ∈ natural n) : c ∈ quotingSigns :=
  of_mem_toDigits (by decide) (by decide) n c h

theorem of_mem_hex {width n : Nat} {c : CodePoint} (h : c ∈ hex width n) : c ∈ quotingSigns := by
  rw [hex, List.map_append, List.map_replicate] at h
  rcases List.mem_append.1 h with h | h
  · rw [List.eq_of_mem_replicate h]
    decide
  · exact of_mem_toDigits (by decide) (by decide) n c h

theorem of_mem_join {sep : Text} {ts : List Text} {c : CodePoint} (h : c ∈ join sep ts) :
    c ∈ sep ∨ ∃ t ∈ ts, c ∈ t := by
  cases ts with
  | nil => cases h
  | cons t ts =>
    rw [join_cons] at h
    rcases List.mem_append.1 h with h | h
    · exact .inr ⟨t, List.mem_cons_self, h⟩
    · obtain ⟨u, hu, h⟩ := List.mem_flatMap.1 h
      rcases List.mem_append.1 h with h | h
      · exact .inl h
      · exact .inr ⟨u, List.mem_cons_of_mem t hu, h⟩

end Text

namespace CodePoint

/-- A code point written by its number is written by letters and digits. -/
theorem of_mem_byNumber {c d : CodePoint} (h : d ∈ c.byNumber) : d ∈ Text.quotingSigns := by
  have hparts : ∀ {letter : Text} {width : Nat}, (∀ x ∈ letter, x ∈ Text.quotingSigns) →
      d ∈ letter ++ Text.hex width c.val → d ∈ Text.quotingSigns := by
    intro letter width hletter h
    rcases List.mem_append.1 h with h | h
    · exact hletter d h
    · exact Text.of_mem_hex h
  unfold byNumber at h
  split at h
  · exact hparts (by decide) h
  · split at h
    · exact hparts (by decide) h
    · exact hparts (by decide) h

/-- **The crux.**  A code point between marks is written with signs of quoting, or with itself if it may stand. -/
theorem of_mem_escaped {mark : Char} (hmark : ofChar mark ∈ Text.quotingSigns) {stands : CodePoint → Bool}
    {c d : CodePoint} (h : d ∈ c.escaped mark stands) : d ∈ Text.quotingSigns ∨ (d = c ∧ stands c = true) := by
  unfold escaped at h
  split at h
  · rename_i hc
    rcases List.mem_cons.1 h with rfl | h
    · exact .inl (by decide)
    · obtain rfl := List.mem_singleton.1 h
      rcases Bool.or_eq_true_iff.1 hc with hc | hc
      · exact .inl (eq_of_is hc ▸ by decide)
      · exact .inl (eq_of_is hc ▸ hmark)
  · split at h
    · exact .inl ((by decide : ∀ x ∈ ("\\n" : Text), x ∈ Text.quotingSigns) d h)
    · split at h
      · exact .inl ((by decide : ∀ x ∈ ("\\r" : Text), x ∈ Text.quotingSigns) d h)
      · split at h
        · exact .inl ((by decide : ∀ x ∈ ("\\t" : Text), x ∈ Text.quotingSigns) d h)
        · split at h
          · rename_i hstands
            exact .inr ⟨List.mem_singleton.1 h, hstands⟩
          · exact .inl (of_mem_byNumber h)

end CodePoint

/-- A written form is written with the signs of quoting, and with printable signs of its text. -/
theorem Text.of_mem_quoted {t : Text} {d : CodePoint} (h : d ∈ t.quoted) :
    d ∈ quotingSigns ∨ (d ∈ t ∧ d.isPrintable = true) := by
  have hmark : CodePoint.ofChar t.mark ∈ quotingSigns := by
    unfold mark
    split <;> decide
  rcases List.mem_append.1 h with h | h
  · rcases List.mem_append.1 h with h | h
    · exact .inl (List.mem_singleton.1 h ▸ hmark)
    · obtain ⟨c, hc, h⟩ := List.mem_flatMap.1 h
      rcases CodePoint.of_mem_escaped hmark h with h | ⟨rfl, hstands⟩
      · exact .inl h
      · exact .inr ⟨hc, hstands⟩
  · exact .inl (List.mem_singleton.1 h ▸ hmark)

/-! ## Printable texts -/

namespace Text

/-- All of a text is printable. -/
def Printable (t : Text) : Prop := ∀ c ∈ t, c.isPrintable = true

instance (t : Text) : Decidable t.Printable :=
  inferInstanceAs (Decidable (∀ c ∈ t, c.isPrintable = true))

namespace Printable

variable {t u : Text}

theorem nil : Printable [] := fun _ hc => nomatch hc

theorem append (ht : t.Printable) (hu : u.Printable) : (t ++ u).Printable := by
  intro c hc
  rcases List.mem_append.1 hc with hc | hc
  · exact ht c hc
  · exact hu c hc

theorem replicate {c : CodePoint} (h : c.isPrintable = true) (n : Nat) :
    Printable (List.replicate n c) := by
  intro d hd
  rw [List.eq_of_mem_replicate hd]
  exact h

theorem join {sep : Text} {ts : List Text} (hsep : sep.Printable) (h : ∀ t ∈ ts, t.Printable) :
    (Text.join sep ts).Printable := by
  intro c hc
  rcases of_mem_join hc with hc | ⟨t, ht, hc⟩
  · exact hsep c hc
  · exact h t ht c hc

theorem flushRight (ht : t.Printable) (width : Nat) : (Text.flushRight width t).Printable :=
  (replicate (by decide) _).append ht

theorem natural (n : Nat) : (Text.natural n).Printable :=
  fun c hc => printable_of_mem_quotingSigns c (of_mem_natural hc)

theorem integer (n : Int) : (Text.integer n).Printable := by
  cases n with
  | ofNat n => exact natural n
  | negSucc n => exact append (by decide) (natural (n + 1))

theorem hex (width n : Nat) : (Text.hex width n).Printable :=
  fun c hc => printable_of_mem_quotingSigns c (of_mem_hex hc)

/-- The written form of a text is printable, whatever the text is. -/
theorem quoted (t : Text) : (Text.quoted t).Printable := by
  intro c hc
  rcases of_mem_quoted hc with hc | ⟨-, hc⟩
  · exact printable_of_mem_quotingSigns c hc
  · exact hc

end Printable

end Text

/-! ## Faults -/

/-- A command in a message is printable. -/
theorem Fault.printable_describe (code : Int) : (Fault.describe code).Printable := by
  unfold Fault.describe
  split
  · rename_i n
    split
    · rename_i hn
      refine .append (.append (by decide) ?_) (by decide)
      rw [CodePoint.ofNat?, dif_pos (by omega)]
      exact List.forall_mem_singleton.2 (CodePoint.isPrintable_of_ascii
        (c := ⟨n, by omega⟩) (Nat.le_of_lt hn.1) hn.2)
    · exact .append (by decide) (.hex 2 n)
  · rename_i n
    exact .append (by decide) (.hex 1 (n + 1))

/-- An offset is printable, and so is the absent one. -/
theorem Fault.printable_position (position : Option Int) :
    (Fault.positionValue position).shown.Printable := by
  cases position with
  | none => decide
  | some p => exact .integer p

/-- The message about a command that there is not is printable, if it is said where the command stands with
    printable signs. -/
theorem Fault.printable_undefinedMessage (code : Int) {position : Value}
    (hplace : (Fault.place position).Printable) : (Fault.undefinedMessage code position).Printable :=
  .append (.append (.append (.append (by decide) (Fault.printable_describe code)) hplace)
    (by decide)) (by decide)

/-- The message about a command at an offset, or at none, is printable. -/
theorem Fault.printable_undefined {code : Value} {position : Option Int} (h : code.integer?.isSome)
    (hplace : (Fault.positionValue position).isWritable) :
    (Fault.undefined code (Fault.positionValue position) h hplace).message.Printable := by
  have hshown : (Fault.place (Fault.positionValue position)).Printable := by
    cases position with
    | none => exact .nil
    | some p => exact .append (by decide) (.integer p)
  exact Fault.printable_undefinedMessage _ hshown

/-! ## Lines of a text -/

/-- A printable text has no line feed in it. -/
theorem Text.Printable.ne_lineFeed {t : Text} (h : t.Printable) :
    ∀ c ∈ t, (c == CodePoint.ofChar '\n') = false := by
  intro c hc
  refine beq_false_of_ne ?_
  rintro rfl
  exact absurd (h _ hc) (by decide)

/-- **Printable lines are read again as they were written.**  Behind the last line there is nothing. -/
theorem Text.lines_ofLines {ls : List Text} (h : ∀ l ∈ ls, l.Printable) :
    Text.lines (Text.ofLines ls) = ls ++ [[]] := by
  induction ls with
  | nil => rfl
  | cons l ls ih =>
    obtain ⟨hl, hls⟩ := List.forall_mem_cons.1 h
    have hcons : Text.ofLines (l :: ls) = l ++ CodePoint.ofChar '\n' :: Text.ofLines ls := by
      rw [Text.ofLines, List.flatMap_cons, List.append_assoc]
      rfl
    have hsplit := List.splitOnP_append_cons (p := (· == CodePoint.ofChar '\n')) l (Text.ofLines ls)
      (beq_self_eq_true (CodePoint.ofChar '\n'))
    rw [hcons, Text.lines, List.splitOn, hsplit, List.splitOnP_eq_singleton hl.ne_lineFeed]
    exact congrArg (l :: ·) (ih hls)

end TapeLang
