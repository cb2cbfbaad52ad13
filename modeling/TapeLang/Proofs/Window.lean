/-
  Window — what a trace shows of the tape.

  After a command a trace shows some cells around the head, and a row below with a sign under the head.

  1. **The window (`Tape.Shows`)** — however large it is, a window begins at the head or before it, goes on
     beyond it, and shows the byte at every address.  The left edge moves its beginning to the right, and
     the head is at most half a window away from there.
  2. **Columns (`Text.join_eq`)** — both rows are parts with one sign between neighbours, and all parts are
     three signs wide: a byte has at most three digits.  So parts with one index stand in the same columns.
  3. **Nothing else** — of all that is written below a row without cells, the sign is written only for a
     byte of output that is the sign (`Trace.of_mem_outputRow`).
-/
import TapeLang.Proofs.EndlessTape
import TapeLang.Proofs.Lines
import TapeLang.Trace

namespace TapeLang

/-! ## The window -/

/-- What a window of a tape shows. -/
structure Tape.Shows (t : Tape) (size : Int) (start : Nat) (values : List UInt8) : Prop where
  /-- It begins half its size before the head, or at the left edge. -/
  start_eq : (start : Int) = max 0 ((t.head : Int) - size.fdiv 2)
  /-- It has its size. -/
  length_eq : (values.length : Int) = size
  /-- It does not begin behind the head. -/
  start_le : start ≤ t.head
  /-- It does not end before the head. -/
  head_lt : t.head < start + values.length
  /-- It shows the byte at every address, zero beyond the cells kept. -/
  values_eq : ∀ i < values.length, values[i]? = some (t.byteAt (start + i))

/-- **A window of a positive size shows the head.** -/
theorem Tape.shows_window (t : Tape) {size : Int} (hsize : 1 ≤ size) :
    t.Shows size (t.window size).1 (t.window size).2 := by
  have hhalf : size.fdiv 2 = size / 2 := Int.fdiv_eq_ediv_of_nonneg size (by decide)
  have hstart : ((t.window size).1 : Int) = max 0 ((t.head : Int) - size.fdiv 2) := by
    show ((((t.head : Int) - size.fdiv 2).toNat : Nat) : Int) = _
    omega
  have hlength : (t.window size).2.length = size.toNat := by simp [window]
  refine ⟨hstart, by omega, by omega, by omega, ?_⟩
  intro i hi
  rw [hlength] at hi
  simp [window, hi]

/-- A window of no size shows nothing. -/
theorem Tape.window_values_nil (t : Tape) {size : Int} (hsize : size ≤ 0) : (t.window size).2 = [] := by
  have hzero : size.toNat = 0 := by omega
  simp [window, hzero]

/-! ## Columns -/

namespace Text

/-- A part of a row, with what stands before it and behind it. -/
theorem join_eq (sep t : Text) (before after : List Text) :
    join sep (before ++ t :: after) = before.flatMap (· ++ sep) ++ t ++ after.flatMap (sep ++ ·) := by
  induction before with
  | nil => rw [List.nil_append, List.flatMap_nil, List.nil_append, join_cons]
  | cons b before ih =>
    have hjoin : join sep (b :: (before ++ t :: after)) = b ++ sep ++ join sep (before ++ t :: after) := by
      cases before <;> rfl
    rw [List.cons_append, hjoin, ih, List.flatMap_cons]
    simp only [List.append_assoc]

/-- Parts of one width are together so many times as wide. -/
theorem length_flatMap_of_width {α : Type} {f : α → Text} {width : Nat} {xs : List α}
    (h : ∀ x ∈ xs, (f x).length = width) : (xs.flatMap f).length = width * xs.length := by
  induction xs with
  | nil => rfl
  | cons x xs ih =>
    obtain ⟨hx, hxs⟩ := List.forall_mem_cons.1 h
    rw [List.flatMap_cons, List.length_append, hx, ih hxs, List.length_cons, Nat.mul_succ, Nat.add_comm]

end Text

namespace Trace

/-- A cell as the row of cells shows it. -/
def cellText (v : UInt8) : Text := Text.flushRight 3 (Text.natural v.toNat)

/-- Every cell is three signs wide. -/
theorem length_cellText (v : UInt8) : (cellText v).length = 3 := by
  have hdigits : (Nat.toDigits 10 v.toNat).length ≤ 3 :=
    (Nat.length_toDigits_le_iff (by decide) (by decide)).2 (Nat.lt_trans v.toNat_lt (by decide))
  simp only [cellText, Text.flushRight, Text.natural, Text.spaces, List.length_append,
    List.length_replicate, List.length_map]
  omega

/-- The row of cells, with a cell in it. -/
theorem memoryRow_eq {values : List UInt8} {i : Nat} {v : UInt8} (h : values[i]? = some v) :
    memoryRow values =
      ((("Memory:  [" : Text) ++ (values.take i).flatMap fun w => cellText w ++ ("|" : Text)) ++ cellText v) ++
        (((values.drop (i + 1)).flatMap fun w => ("|" : Text) ++ cellText w) ++ ("]" : Text)) := by
  obtain ⟨hi, rfl⟩ := List.getElem?_eq_some_iff.1 h
  have hsplit : values = values.take i ++ values[i] :: values.drop (i + 1) := by
    simp
  have hjoin := Text.join_eq "|" (cellText values[i]) ((values.take i).map cellText)
    ((values.drop (i + 1)).map cellText)
  have hmap : values.map cellText =
      (values.take i).map cellText ++ cellText values[i] :: (values.drop (i + 1)).map cellText := by
    rw [← List.map_cons, ← List.map_append, ← hsplit]
  rw [← hmap] at hjoin
  show ("Memory:  [" : Text) ++ Text.join "|" (values.map cellText) ++ "]" = _
  rw [hjoin]
  simp only [List.flatMap_map, List.append_assoc]

/-- The sign under the head. -/
def pointer : CodePoint := CodePoint.ofChar '^'

/-- The row that points at the head, if the head is in the window. -/
theorem pointerRow_eq {start size head : Nat} (hstart : start ≤ head) (hhead : head < start + size) :
    pointerRow start size head =
      ((("Pointer:  " : Text) ++ (List.replicate (head - start) ("   " : Text)).flatMap (· ++ (" " : Text))) ++
        (" ^ " : Text)) ++
          (List.replicate (start + size - head - 1) ("   " : Text)).flatMap ((" " : Text) ++ ·) := by
  have hparts : ((List.range size).map fun i => if start + i = head then (" ^ " : Text) else "   ") =
      List.replicate (head - start) ("   " : Text) ++
        (" ^ " : Text) :: List.replicate (start + size - head - 1) ("   " : Text) := by
    refine List.ext_getElem (by simp; omega) fun i hi _ => ?_
    simp only [List.length_map, List.length_range] at hi
    simp only [List.getElem_map, List.getElem_range, List.getElem_append, List.length_replicate,
      List.getElem_replicate, List.getElem_cons]
    rcases Nat.lt_trichotomy i (head - start) with hlt | heq | hgt
    · rw [if_neg (by omega), dif_pos hlt]
    · rw [if_pos (by omega), dif_neg (by omega), dif_pos (by omega)]
    · rw [if_neg (by omega), dif_neg (by omega), dif_neg (by omega)]
  rw [pointerRow, hparts, Text.join_eq]
  simp only [List.append_assoc]

/-- Where a part of a row begins, behind a name of ten signs and so many parts with a sign behind each. -/
theorem length_before (name : Text) (hname : name.length = 10) {α : Type} (f : α → Text) (xs : List α)
    (h : ∀ x ∈ xs, (f x).length = 4) : (name ++ xs.flatMap f).length = 10 + 4 * xs.length := by
  rw [List.length_append, hname, Text.length_flatMap_of_width h]

/-- **The row points at the head**, once and under the middle of its cell. -/
theorem pointerRow_points {start size head : Nat} (hstart : start ≤ head) (hhead : head < start + size) :
    (pointerRow start size head).count pointer = 1 ∧
      (pointerRow start size head)[10 + 4 * (head - start) + 1]? = some pointer := by
  have hblank : ∀ (f : Text → Text) (n : Nat), pointer ∉ f "   " →
      ((List.replicate n ("   " : Text)).flatMap f).count pointer = 0 := by
    intro f n hf
    refine List.count_eq_zero_of_not_mem fun hmem => ?_
    obtain ⟨part, hpart, hin⟩ := List.mem_flatMap.1 hmem
    rw [List.eq_of_mem_replicate hpart] at hin
    exact hf hin
  rw [pointerRow_eq hstart hhead]
  constructor
  · rw [List.count_append, List.count_append, List.count_append, hblank _ _ (by decide),
      hblank _ _ (by decide)]
    rfl
  · have hbefore := length_before "Pointer:  " rfl (· ++ (" " : Text))
      (List.replicate (head - start) ("   " : Text))
      fun part hpart => by rw [List.eq_of_mem_replicate hpart]; rfl
    rw [List.length_replicate] at hbefore
    rw [List.append_assoc, ← hbefore, List.getElem?_append_right (Nat.le_add_right _ 1),
      Nat.add_sub_cancel_left]
    rfl

end Trace

/-! ## Nothing else -/

namespace Trace

theorem pointer_not_mem_byteList (bytes : List UInt8) : pointer ∉ byteList bytes := by
  intro h
  rcases List.mem_append.1 h with h | h
  · rcases List.mem_append.1 h with h | h
    · exact absurd h (by decide)
    · rcases Text.of_mem_join h with h | ⟨t, ht, h⟩
      · exact absurd h (by decide)
      · obtain ⟨b, -, rfl⟩ := List.mem_map.1 ht
        exact absurd (Text.of_mem_natural h) (by decide)
  · exact absurd h (by decide)

/-- The row of the input never holds the sign. -/
theorem pointer_not_mem_inputRow (input : List UInt8) : pointer ∉ inputRow input := by
  intro h
  rcases List.mem_append.1 h with h | h
  · exact absurd h (by decide)
  · exact pointer_not_mem_byteList input h

/-- The row of the output holds the sign only if the byte of the sign was put out. -/
theorem of_mem_outputRow {output : List UInt8} (h : pointer ∈ outputRow output) : 94 ∈ output := by
  unfold outputRow at h
  split at h
  · exact absurd h (by decide)
  · rcases List.mem_append.1 h with h | h
    · exact absurd h (by decide)
    · rcases List.mem_append.1 h with h | h
      · rcases List.mem_append.1 h with h | h
        · rcases Text.of_mem_quoted h with h | ⟨h, -⟩
          · exact absurd h (by decide)
          · obtain ⟨b, hb, heq⟩ := List.mem_map.1 h
            have hval : b.toNat = 94 := congrArg CodePoint.val heq
            exact UInt8.toNat_inj.1 (hval.trans (by rfl : 94 = (94 : UInt8).toNat)) ▸ hb
        · exact absurd h (by decide)
      · exact absurd h (pointer_not_mem_byteList output)

/-! ## The theorem -/

/-- **What is shown of the tape always shows the head.**  A window of any positive size leaves the tape as it is
    and shows the head.  Among the rows about the state there are then the cells of the window, each three
    signs wide, with the cell under the head behind those that stand before it, and below a row with one
    sign that points, in the column of the middle of that cell.  A window of no size shows no cell.  The
    rows are then empty, and the sign stands in a row only as a byte that was put out. -/
theorem window_shows_head (s : State) (size : Int) :
    (1 ≤ size → ∃ start values,
      s.tape.perform (.window size) = (.window start (values.map Tape.integerOf), s.tape) ∧
      s.tape.Shows size start values ∧
      ∃ left right row others, stateRows size s = (left ++ cellText s.tape.cell ++ right) :: row :: others ∧
        left = ("Memory:  [" : Text) ++
          (values.take (s.tape.head - start)).flatMap (fun v => cellText v ++ ("|" : Text)) ∧
        right = (values.drop (s.tape.head - start + 1)).flatMap (fun v => ("|" : Text) ++ cellText v) ++
          ("]" : Text) ∧
        (∀ v, (cellText v).length = 3) ∧ row.count pointer = 1 ∧ row[left.length + 1]? = some pointer) ∧
    (size ≤ 0 → ∃ start,
      s.tape.perform (.window size) = (.window start [], s.tape) ∧
      stateRows size s = [Text.ofString "Memory:  []", "Pointer:  ", "Address:  ", inputRow s.input,
        outputRow s.output.toList] ∧
      ∀ row ∈ stateRows size s, pointer ∈ row → row = outputRow s.output.toList ∧ 94 ∈ s.output.toList) := by
  obtain ⟨start, values, hwindow⟩ : ∃ start values, s.tape.window size = (start, values) := ⟨_, _, rfl⟩
  have hperform : s.tape.perform (.window size) = (.window start (values.map Tape.integerOf), s.tape) := by
    rw [Tape.perform, hwindow]
  have hrows : stateRows size s =
      [memoryRow values, pointerRow start values.length s.tape.head, addressRow start values.length,
        inputRow s.input, outputRow s.output.toList] := by
    rw [stateRows, hwindow]
  constructor
  · intro hsize
    have hshows : s.tape.Shows size start values := by
      have hshows := s.tape.shows_window hsize
      rwa [hwindow] at hshows
    have hstart : start ≤ s.tape.head := hshows.start_le
    have hhead : s.tape.head < start + values.length := hshows.head_lt
    have hcell : values[s.tape.head - start]? = some s.tape.cell := by
      rw [hshows.values_eq _ (by omega), Nat.add_sub_cancel' hstart]
      rfl
    have hleft := length_before "Memory:  [" rfl (fun v => cellText v ++ ("|" : Text))
      (values.take (s.tape.head - start))
      fun v _ => by rw [List.length_append, length_cellText]; rfl
    rw [List.length_take_of_le (by omega)] at hleft
    obtain ⟨hcount, hcolumn⟩ := pointerRow_points hstart hhead
    rw [memoryRow_eq hcell] at hrows
    refine ⟨start, values, hperform, hshows, _, _, _, _, hrows, rfl, rfl, length_cellText, hcount, ?_⟩
    rw [hleft]
    exact hcolumn
  · intro hsize
    have hnil : values = [] := by
      have hnil := s.tape.window_values_nil hsize
      rwa [hwindow] at hnil
    subst hnil
    have hempty : stateRows size s = [Text.ofString "Memory:  []", "Pointer:  ", "Address:  ",
        inputRow s.input, outputRow s.output.toList] := hrows
    refine ⟨start, hperform, hempty, ?_⟩
    have hplain : ∀ row ∈ [Text.ofString "Memory:  []", "Pointer:  ", "Address:  "], pointer ∉ row := by decide
    have hsplit : stateRows size s = [Text.ofString "Memory:  []", "Pointer:  ", "Address:  "] ++
        [inputRow s.input, outputRow s.output.toList] := hempty
    rw [hsplit]
    intro row hrow hpointer
    rcases List.mem_append.1 hrow with hrow | hrow
    · exact absurd hpointer (hplain row hrow)
    rcases List.mem_cons.1 hrow with rfl | hrow
    · exact absurd hpointer (pointer_not_mem_inputRow s.input)
    · obtain rfl := List.mem_singleton.1 hrow
      exact ⟨rfl, of_mem_outputRow hpointer⟩

end Trace

end TapeLang
