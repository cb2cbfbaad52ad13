/-
  Malformed — how a suite that is none is refused.

  The checks of a case look at values of any kind.  Each of them fails with a failure of its own kind: a
  value that is not acceptable, a text that the encoding cannot write, or the name of an encoding that there
  is not (`Failure.Refuses`).  There are two exceptions.  The kinds of faults are kept in a table, and a
  value that can be changed cannot be looked up in it.  And a message shows the name of a case, which may
  have more levels than there is room for when it is written.

  1. **One value** — where there is room for all its levels, a value is written unless an integer in it has
     too many digits (`Value.tryWriting_eq`).

  2. **One case** — what its checks fail with, field by field.  Exactly if a mapping comes as far as the
     look-up with such a value (`CheckedCase.NamesChangeable`), it fails there; and only if its name, or what
     it names a fault by, has too many levels (`CheckedCase.ShowsNested`), it fails for that.

  3. **One suite** — the first item that is no case decides.  Before that, the file has to be a document, and
     what the reader fails with is not known here.

  4. **The command** — everything that a check of suites does either succeeds, or fails with a misuse, or
     with one of those failures (`Suite.Untold`).  A misuse has a status of its own.
-/
import TapeLang.Proofs.Outcomes
import TapeLang.Proofs.Override
import TapeLang.Proofs.Tally

namespace TapeLang

/-! ## One value -/

namespace Value

/-- Every value has a level of its own. -/
theorem levels_pos (v : Value) : 0 < v.levels := by
  cases v with
  | set items => cases items <;> exact Nat.succ_pos _
  | moment d t =>
    rw [levels, momentLevels]
    split
    · decide
    · split <;> decide
  | _ => exact Nat.succ_pos _

/-- Two checks for one reason are one check. -/
theorem check_and (a b : Bool) {ε : Type} (e : ε) :
    ((if a then .ok () else .error e : Except ε Unit) >>= fun _ => if b then .ok () else .error e) =
      if a && b then .ok () else .error e := by
  cases a <;> rfl

mutual

/-- **Where there is room for all levels of a value**, only an integer of too many digits is in its way. -/
theorem tryWriting_eq {v : Value} {room : Nat} (h : v.levels ≤ room) :
    v.tryWriting room = v.checkWritable := by
  obtain ⟨room, rfl⟩ : ∃ r, room = r + 1 :=
    Nat.exists_eq_succ_of_ne_zero (Nat.ne_of_gt (Nat.lt_of_lt_of_le v.levels_pos h))
  match v with
  | .list items | .tuple items =>
    rw [tryWriting, tryWritingAll_eq (Nat.le_of_succ_le_succ h), checkWritable, isWritable]
  | .set [] => rfl
  | .set (w :: rest) =>
    -- the items are two levels down
    cases room with
    | zero => exact absurd (Nat.le_of_succ_le_succ h) (Nat.not_succ_le_zero _)
    | succ room =>
      obtain ⟨hw, hrest⟩ := Nat.max_le.1 (Nat.le_of_succ_le_succ (Nat.le_of_succ_le_succ h))
      rw [tryWriting, tryWriting_eq hw, tryWritingAll_eq hrest, checkWritable, check_and, checkWritable,
        isWritable, areWritable]
  | .dict entries =>
    rw [tryWriting, tryWritingEntries_eq (Nat.le_of_succ_le_succ h), checkWritable, isWritable]
  | .moment d t => exact if_pos h
  | .int n => rfl
  | .null | .bool _ | .float _ | .text _ | .bytes _ | .buffer _ | .date _ | .again _ => rfl

/-- The same for the values of a list. -/
theorem tryWritingAll_eq {vs : List Value} {room : Nat} (h : levelsAmong vs ≤ room) :
    tryWritingAll vs room = if areWritable vs then .ok () else .error .tooManyDigits := by
  match vs with
  | [] => rfl
  | v :: rest =>
    obtain ⟨hv, hrest⟩ := Nat.max_le.1 h
    rw [tryWritingAll, tryWriting_eq hv, tryWritingAll_eq hrest, checkWritable, check_and, areWritable]

/-- The same for the entries of a mapping. -/
theorem tryWritingEntries_eq {entries : List (Value × Value)} {room : Nat} (h : entryLevels entries ≤ room) :
    tryWritingEntries entries room =
      if entriesAreWritable entries then .ok () else .error .tooManyDigits := by
  match entries with
  | [] => rfl
  | (k, v) :: rest =>
    obtain ⟨hentry, hrest⟩ := Nat.max_le.1 h
    obtain ⟨hk, hv⟩ := Nat.max_le.1 hentry
    rw [tryWritingEntries, tryWriting_eq hk, tryWriting_eq hv, tryWritingEntries_eq hrest, checkWritable,
      checkWritable, check_and, check_and, entriesAreWritable, Bool.and_assoc]

end

mutual

/-- Whatever the room, a value is not written for one of two reasons. -/
theorem tryWriting_yields (v : Value) (room : Nat) :
    Yields (fun f => f = .tooManyDigits ∨ f = tooNested) (fun _ => True) (v.tryWriting room) := by
  match v, room with
  | v, 0 =>
    rw [tryWriting]
    exact .error (.inr rfl)
  | .int n, room + 1 =>
    rw [tryWriting, checkWritable]
    split
    · exact .ok trivial
    · exact .error (.inl rfl)
  | .list items, room + 1 => exact tryWritingAll_yields items room
  | .tuple items, room + 1 => exact tryWritingAll_yields items room
  | .set [], room + 1 => exact .ok trivial
  | .set (w :: rest), 1 => exact .error (.inr rfl)
  | .set (w :: rest), room + 2 =>
    exact (tryWriting_yields w room).bind fun _ _ => tryWritingAll_yields rest room
  | .dict entries, room + 1 => exact tryWritingEntries_yields entries room
  | .moment d t, room + 1 =>
    rw [tryWriting]
    split
    · exact .ok trivial
    · exact .error (.inr rfl)
  | .null, _ + 1 | .bool _, _ + 1 | .float _, _ + 1 | .text _, _ + 1 | .bytes _, _ + 1 | .buffer _, _ + 1
  | .date _, _ + 1 | .again _, _ + 1 => exact .ok trivial

/-- The same for the values of a list. -/
theorem tryWritingAll_yields (vs : List Value) (room : Nat) :
    Yields (fun f => f = .tooManyDigits ∨ f = tooNested) (fun _ => True) (tryWritingAll vs room) := by
  match vs with
  | [] => exact .ok trivial
  | v :: rest => exact (tryWriting_yields v room).bind fun _ _ => tryWritingAll_yields rest room

/-- The same for the entries of a mapping. -/
theorem tryWritingEntries_yields (entries : List (Value × Value)) (room : Nat) :
    Yields (fun f => f = .tooManyDigits ∨ f = tooNested) (fun _ => True)
      (tryWritingEntries entries room) := by
  match entries with
  | [] => exact .ok trivial
  | (k, v) :: rest =>
    exact (tryWriting_yields k room).bind fun _ _ => (tryWriting_yields v room).bind fun _ _ =>
      tryWritingEntries_yields rest room

end

/-- So many lists, each in the next one. -/
def nested : Nat → Value
  | 0 => list []
  | n + 1 => list [nested n]

/-- Lists in one another cannot be written where there is no room for the innermost. -/
theorem tryWriting_nested {n room : Nat} (h : room ≤ n) : (nested n).tryWriting room = .error tooNested := by
  induction room generalizing n with
  | zero => rw [tryWriting]
  | succ room ih =>
    cases n with
    | zero => exact absurd h (Nat.not_succ_le_zero room)
    | succ n =>
      rw [nested, tryWriting, tryWritingAll, ih (Nat.le_of_succ_le_succ h)]
      rfl

end Value

/-! ## One field -/

/-- The name of an encoding stands for none. -/
def Codecs.Lacks [Codecs] (name : Text) : Prop := ∀ encode, find name ≠ .ok (some encode)

/-- A failure by which a case in the given encoding may be refused. -/
inductive Failure.Refuses [Codecs] (encoding : Text) : Failure → Prop where
  /-- A value is not acceptable. -/
  | value {f : Failure} (h : f.category = .value) : Refuses encoding f
  /-- A text cannot be written. -/
  | encode {f : Failure} (h : f.category = .encode) : Refuses encoding f
  /-- There is no such encoding. -/
  | lookup {f : Failure} (hname : Codecs.Lacks encoding) (h : f.category = .lookup) : Refuses encoding f

/-- A failure refuses, or says that a part for which `p` holds cannot be looked up, or that a value for which
    `q` holds has too many levels. -/
def Failure.RefusesBut [Codecs] (encoding : Text) (p q : Value → Prop) (f : Failure) : Prop :=
  f.Refuses encoding ∨ (∃ part, p part ∧ f = .unhashable part.typeName) ∨
    ∃ shown, q shown ∧ f = Value.tooNested

section Field

variable [Codecs] {encoding : Text} {p q : Value → Prop}

/-- Work that looks nothing up and shows no value. -/
theorem Yields.refusesBut {α : Type} {Q R : α → Prop} {x : Except Failure α}
    (h : Yields (Failure.Refuses encoding) Q x) (hQ : ∀ a, Q a → R a) :
    Yields (Failure.RefusesBut encoding p q) R x := h.mono (fun _ h => .inl h) hQ

/-- A failure that refuses is a misuse. -/
theorem Failure.Refuses.isMisuse {f : Failure} (h : f.Refuses encoding) : f.isMisuse = true := by
  cases h with
  | value h => rw [Failure.isMisuse, h]
  | encode h => rw [Failure.isMisuse, h]
  | lookup _ h => rw [Failure.isMisuse, h]

/-- What is wrong with the name of an encoding, or with a text, refuses. -/
theorem Failure.refuses_encoding {e : EncodingError} (h : e.isAboutText = true ∨ Codecs.Lacks encoding) :
    Failure.Refuses encoding (.encoding e) := by
  cases e with
  | unencodable => exact .encode rfl
  | unacceptable => exact .value rfl
  | nulInName => exact .value rfl
  | unknown name => exact .lookup (h.resolve_left Bool.false_ne_true) rfl
  | notForText name => exact .lookup (h.resolve_left Bool.false_ne_true) rfl

/-- A text has bytes, or is refused. -/
theorem Text.encoded_yields (t encoding : Text) :
    Yields (Failure.Refuses encoding) (fun _ => True)
      ((t.encoded encoding).mapError Failure.encoding) := by
  refine .mapError ?_
  unfold Text.encoded
  cases hfind : Codecs.find encoding with
  | error e => exact Failure.refuses_encoding (.inr fun _ h => nomatch hfind.symm.trans h)
  | ok encode? =>
    cases encode? with
    | none => exact Failure.refuses_encoding (.inr fun _ h => nomatch hfind.symm.trans h)
    | some encode =>
      show Yields _ _ (encode t)
      cases hencode : encode t with
      | ok bytes => exact .ok trivial
      | error e => exact Failure.refuses_encoding (.inl (Codecs.aboutText hfind hencode))

theorem fieldElements_yields (field encoding : Text) (items : List Value) :
    Yields (Failure.Refuses encoding) (fun _ => True) (fieldElements field items) := by
  induction items with
  | nil => exact .ok trivial
  | cons v rest ih =>
    unfold fieldElements
    split
    · split
      · exact .map ih
      · exact .error (.value rfl)
    · exact .error (.value rfl)

/-- A field has bytes, or is refused. -/
theorem fieldBytes_yields (field encoding : Text) (v : Value) :
    Yields (Failure.Refuses encoding) (fun _ => True) (fieldBytes field encoding v) := by
  unfold fieldBytes
  split
  · exact Text.encoded_yields _ encoding
  · exact fieldElements_yields field encoding _
  · exact fieldElements_yields field encoding _
  · exact .error (.value rfl)

variable [WritingRoom]

/-- A value has more levels than there is room for. -/
def Value.Nested (v : Value) : Prop := WritingRoom.levels < v.levels

/-- A value is written, or an integer in it is refused, or it has too many levels. -/
theorem Value.write_yields {v : Value} (hq : v.Nested → q v) :
    Yields (Failure.RefusesBut encoding p q) (fun _ => True) v.write := by
  unfold write
  by_cases hnested : v.Nested
  · refine (v.tryWriting_yields _).mono (fun f hf => ?_) fun _ h => h
    rcases hf with rfl | rfl
    · exact .inl (.value rfl)
    · exact .inr (.inr ⟨v, hq hnested, rfl⟩)
  · rw [tryWriting_eq (Nat.le_of_not_lt hnested), checkWritable]
    split
    · exact .ok trivial
    · exact .error (.inl (.value rfl))

/-- A refusal refuses, be it that what it shows cannot be written. -/
theorem refuse_yields {α : Type} {shown : List Value} (hq : ∀ v ∈ shown, v.Nested → q v) (e : ShapeError) :
    Yields (Failure.RefusesBut encoding p q) (fun _ : α => False) (refuse e shown) :=
  (Yields.forM fun v hv => Value.write_yields (hq v hv)).bind fun _ _ => .error (.inl (.value rfl))

/-- The kind of fault that a field names is in the table, or is refused, or cannot be looked up. -/
theorem expectedFault_yields {name v : Value} (hp : ∀ part, v.changeable? = some part → p part)
    (hname : name.Nested → q name) (hv : v ≠ .null → v.Nested → q v) :
    Yields (Failure.RefusesBut encoding p q) (fun _ => True) (expectedFault name v) := by
  unfold expectedFault
  split
  · exact .ok trivial
  · rename_i hsome
    have hshown : ∀ {shown : List Value}, (∀ w ∈ shown, w = name ∨ w = v) →
        ∀ w ∈ shown, w.Nested → q w := by
      intro shown h w hw hnested
      rcases h w hw with rfl | rfl
      · exact hname hnested
      · exact hv hsome hnested
    split
    · next part hpart => exact .error (.inr (.inl ⟨part, hp part hpart, rfl⟩))
    · split
      · split
        · exact .ok trivial
        · exact (refuse_yields (hshown (by simp)) _).mono (fun _ h => h) fun _ _ => trivial
      · exact (refuse_yields (hshown (by simp)) _).mono (fun _ h => h) fun _ _ => trivial

end Field

/-! ## One case -/

namespace CheckedCase

/-- A value is a mapping with a name and a program that expects a fault and no output, and the name of the
    fault holds a part that can be changed. -/
def NamesChangeable (v part : Value) : Prop :=
  ∃ fields fault, v = .dict fields ∧ ((Value.entry? "name" fields).getD .null).truthy = true ∧
    (Value.entry? "program" fields).isSome = true ∧ Value.entry? "expected" fields = none ∧
    Value.entry? "error" fields = some fault ∧ fault.changeable? = some part

/-- A value is a mapping, and its name, or what it names a fault by, has more levels than there is room for. -/
def ShowsNested [WritingRoom] (v shown : Value) : Prop :=
  ∃ fields, v = .dict fields ∧
    (Value.entry? "name" fields = some shown ∨ Value.entry? "error" fields = some shown) ∧ shown.Nested

variable [Codecs] [WritingRoom]

/-- **Checking a case** gives one, or refuses it, or looks up what cannot be looked up, or shows what has too
    many levels. -/
theorem ofValue_yields (encoding : Text) (v : Value) :
    Yields (Failure.RefusesBut encoding (NamesChangeable v) (ShowsNested v)) (fun _ => True)
      (ofValue encoding v) := by
  cases v with
  | dict fields =>
    simp only [ofValue]
    split
    · exact .error (.inl (.value rfl))
    rename_i hname
    -- there is a name, for the absent value counts as false
    obtain ⟨name, hname'⟩ : ∃ name, Value.entry? "name" fields = some name := by
      cases hentry : Value.entry? "name" fields with
      | none =>
        rw [hentry] at hname
        exact absurd rfl hname
      | some name => exact ⟨name, rfl⟩
    rw [hname'] at hname ⊢
    have hshown : ∀ w ∈ [name], w.Nested → ShowsNested (.dict fields) w := by
      intro w hw hnested
      obtain rfl := List.mem_singleton.1 hw
      exact ⟨fields, rfl, .inl hname', hnested⟩
    split
    · exact (refuse_yields hshown _).mono (fun _ h => h) fun _ hnone => hnone.elim
    rename_i program hprogram
    split
    · exact (refuse_yields hshown _).bind fun _ hnone => hnone.elim
    rename_i hkeys
    refine Yields.bind (Q := fun _ => True) (expectedFault_yields ?_ (hshown name List.mem_cons_self) ?_)
      fun fault _ => (Value.write_yields (hshown name List.mem_cons_self)).bind fun _ _ =>
        Yields.refusesBut (Q := fun _ => True) ?_ fun _ h => h
    · intro part hpart
      cases hfault : Value.entry? "error" fields with
      | none =>
        rw [hfault] at hpart
        cases hpart
      | some fault =>
        rw [hfault] at hpart hkeys
        refine ⟨fields, fault, rfl, by simpa [hname'] using hname, ?_, ?_, hfault, hpart⟩
        · exact Option.isSome_iff_exists.2 ⟨program, hprogram⟩
        · simpa using hkeys
    · intro hsome hnested
      cases hfault : Value.entry? "error" fields with
      | none =>
        rw [hfault] at hsome
        exact absurd rfl hsome
      | some fault =>
        rw [hfault] at hnested
        exact ⟨fields, rfl, .inr hfault, hnested⟩
    · -- behind the name there are only contents
      refine (fieldBytes_yields ..).bind fun _ _ => (fieldBytes_yields ..).bind fun _ _ => ?_
      split
      · exact Yields.bind (Q := fun _ => True) (.map (fieldBytes_yields ..)) fun _ _ => .ok trivial
      · exact .ok trivial
  | _ => exact .error (.inl (.value rfl))

/-- The look-up comes before the contents. -/
theorem ofValue_of_namesChangeable {v part : Value} (h : NamesChangeable v part) (encoding : Text) :
    ofValue encoding v = .error (.unhashable part.typeName) := by
  obtain ⟨fields, fault, rfl, hname, hprogram, hexpected, hfault, hpart⟩ := h
  obtain ⟨program, hprogram⟩ := Option.isSome_iff_exists.1 hprogram
  have hlooked : expectedFault ((Value.entry? "name" fields).getD .null) fault =
      .error (.unhashable part.typeName) := by
    unfold expectedFault
    split
    · cases hpart
    · rw [hpart]
  simp only [ofValue, hname, hprogram, hexpected, hfault, Option.getD_some, hlooked]
  rfl

end CheckedCase

/-! ## One suite -/

namespace Suite

section

variable [Codecs] [WritingRoom]

/-- Of the first item of a document that is no case, `P` is so. -/
def FirstBad (encoding : Text) (d : Yaml.Document) (P : Value → Prop) : Prop :=
  ∃ before bad after, items? d = some (before ++ bad :: after) ∧
    (∀ v ∈ before, ∃ c, CheckedCase.ofValue encoding v = .ok c) ∧ P bad

/-- The first item of a document that is no case names a fault, and `part` is what can be changed of that
    name. -/
def LooksUp (encoding : Text) (d : Yaml.Document) (part : Value) : Prop :=
  FirstBad encoding d fun bad => CheckedCase.NamesChangeable bad part

/-- The first item of a document that is no case is told of by a value with more levels than there is room
    for. -/
def ShowsNested (encoding : Text) (d : Yaml.Document) (shown : Value) : Prop :=
  FirstBad encoding d fun bad => CheckedCase.ShowsNested bad shown

/-- **Checking a document** gives a case for each item, in order, or refuses the document, or looks up what
    cannot be looked up, or shows what has too many levels. -/
theorem ofDocument_yields (path encoding : Text) (d : Yaml.Document) :
    Yields (Failure.RefusesBut encoding (LooksUp encoding d) (ShowsNested encoding d))
      (fun cases => ∃ items, items? d = some items ∧
        List.Forall₂ (fun v c => CheckedCase.ofValue encoding v = .ok c) items cases)
      (ofDocument path encoding d) := by
  unfold ofDocument
  cases hitems : items? d with
  | none => exact .error (.inl (.value rfl))
  | some items =>
    dsimp only
    cases hcases : items.mapM (CheckedCase.ofValue encoding) with
    | ok cases => exact .ok ⟨items, rfl, forall₂_of_mapM hcases⟩
    | error f =>
      obtain ⟨before, bad, after, rfl, hbefore, hbad⟩ := mapM_eq_error hcases
      have hyields := CheckedCase.ofValue_yields encoding bad
      rw [hbad] at hyields
      rcases hyields with hrefuses | ⟨part, hnames, rfl⟩ | ⟨shown, hshows, rfl⟩
      · exact .error (.inl hrefuses)
      · exact .error (.inr (.inl ⟨part, ⟨before, bad, after, hitems, hbefore, hnames⟩, rfl⟩))
      · exact .error (.inr (.inr ⟨shown, ⟨before, bad, after, hitems, hbefore, hshows⟩, rfl⟩))

theorem ofDocument_of_looksUp {encoding : Text} {d : Yaml.Document} {part : Value}
    (h : LooksUp encoding d part) (path : Text) :
    ofDocument path encoding d = .error (.unhashable part.typeName) := by
  obtain ⟨before, bad, after, hitems, hbefore, hnames⟩ := h
  rw [ofDocument, hitems]
  exact mapM_of_error hbefore (CheckedCase.ofValue_of_namesChangeable hnames encoding)

variable [Yaml.Reader]

/-- The failures to load the bytes of a file at a path that are no misuse. -/
inductive Untold (path encoding : Text) (bytes : List UInt8) : Failure → Prop where
  /-- The reader fails in its own way. -/
  | reading {f : Failure} (hread : Yaml.Reader.read path bytes = .error f) (h : f.isMisuse = false) :
    Untold path encoding bytes f
  /-- The document looks up what cannot be looked up. -/
  | lookUp {d : Yaml.Document} {part : Value} (hread : Yaml.Reader.read path bytes = .ok d)
    (h : LooksUp encoding d part) : Untold path encoding bytes (.unhashable part.typeName)
  /-- The document shows what has too many levels. -/
  | nested {d : Yaml.Document} {shown : Value} (hread : Yaml.Reader.read path bytes = .ok d)
    (h : ShowsNested encoding d shown) : Untold path encoding bytes Value.tooNested

/-- **Loading a suite** from a file that can be read succeeds, or fails with a misuse, or with what is none. -/
theorem load_yields {file : Text → Except Failure (List UInt8)} {path : Text} {bytes : List UInt8}
    (hfile : file path = .ok bytes) (encoding : Text) :
    Yields (fun f => f.isMisuse = true ∨ Untold path encoding bytes f) (fun _ => True)
      (load file path encoding) := by
  rw [load, hfile, ok_bind]
  cases hread : Yaml.Reader.read path bytes with
  | error f =>
    cases hmisuse : f.isMisuse with
    | true => exact .error (.inl hmisuse)
    | false => exact .error (.inr (.reading hread hmisuse))
  | ok d =>
    refine (ofDocument_yields path encoding d).mono (fun f hf => ?_) fun _ _ => trivial
    rcases hf with hrefuses | ⟨part, hlooks, rfl⟩ | ⟨shown, hshows, rfl⟩
    · exact .inl hrefuses.isMisuse
    · exact .inr (.lookUp hread hlooks)
    · exact .inr (.nested hread hshows)

/-- The programs of the suite at a path end, if it is loaded. -/
def ProgramsEnd (w : CommandLine.Surroundings) (s : Settings) (path : Text) : Prop :=
  ∀ cases, load w.file path s.encoding = .ok cases → ∀ c ∈ cases,
    Program.outcome w.budget s.chunk c.program c.input ≠ .error .unfinished

end

/-- A suite of one case, with a name and no more. -/
def ofName (name : Value) : Yaml.Document where
  objects := #[.list [1], .mapping [⟨.text "name", some 2, 3⟩], .value (.text "name"), .value name]
  root := 0

/-- A name that has too many levels is not told to be that of a case without a program. -/
theorem ofDocument_nested [WritingRoom] {name : Value} (hname : name.truthy = true)
    (h : name.write = .error Value.tooNested) :
    ofDocument "suite.yaml" "utf-8" (ofName name) = .error Value.tooNested := by
  have hcase : CheckedCase.ofValue "utf-8" (.dict [(.text "name", name)]) = .error Value.tooNested := by
    have hentry : Value.entry? "name" [(.text "name", name)] = some name := rfl
    simp only [CheckedCase.ofValue, hentry, Option.getD_some, hname]
    show (([name].forM Value.write >>= fun _ => throw _ : Except Failure CheckedCase)) = _
    rw [List.forM_eq_forM, List.forM_cons, h]
    rfl
  show [Value.dict [(.text "name", name)]].mapM (CheckedCase.ofValue "utf-8") = _
  rw [List.mapM_cons, hcase]
  rfl

/-- A suite whose programs end has its verdicts, or one of them is too long to be told of. -/
theorem run_yields [Codecs] {n : Nat} {s : Settings} {cases : List CheckedCase}
    (h : ∀ c ∈ cases, Program.outcome n s.chunk c.program c.input ≠ .error .unfinished) :
    Yields (fun f => f.isMisuse = true) (fun _ => True) (run n s cases) := by
  unfold run
  induction cases with
  | nil => exact .ok trivial
  | cons c cases ih =>
    obtain ⟨hc, hcases⟩ := List.forall_mem_cons.1 h
    rw [List.mapM_cons]
    refine Yields.bind (Q := fun _ => True) ?_ fun _ _ => (ih hcases).bind fun _ _ => .ok trivial
    have hjudged := c.judged n s
    generalize Program.outcome n s.chunk c.program c.input = outcome at hc hjudged
    generalize c.toCase.judge n s = r at hjudged ⊢
    cases hjudged with
    | ended => exact .ok trivial
    | unfinished => exact absurd rfl hc
    | untold => exact .error rfl

end Suite

/-! ## The command -/

namespace CommandLine

section

variable [Codecs] [WritingRoom] [Yaml.Reader] {w : Surroundings} {s : Settings}

theorem checkSuite_ends {path : Text} {bytes : List UInt8} (hfile : w.file path = .ok bytes)
    (hends : Suite.ProgramsEnd w s path) (level : LogLevel) :
    (checkSuite w level s path).Ends
      (fun f => f.isMisuse = true ∨ Suite.Untold path s.encoding bytes f) fun _ => True := by
  unfold checkSuite
  have hyields := Suite.load_yields hfile s.encoding
  cases hload : Suite.load w.file path s.encoding with
  | error f =>
    rw [hload] at hyields
    exact (Job.Ends.lift (Q := fun _ => False) (.error hyields)).bind fun _ hnone => hnone.elim
  | ok cases =>
    have hrun : Yields (fun f => f.isMisuse = true ∨ Suite.Untold path s.encoding bytes f) (fun _ => True)
        (Suite.run w.budget s cases) :=
      (Suite.run_yields (hends cases hload)).mono (fun _ h => .inl h) fun _ h => h
    rw [Job.lift_ok_bind]
    refine (Job.Ends.log _ _ _).bind fun _ _ => (Job.Ends.lift hrun).bind fun _ _ =>
      (Job.Ends.log _ _ _).bind fun _ _ => (Job.Ends.forM fun v _ => ?_).bind fun _ _ => .pure trivial
    exact .print (fun e => .inl (isMisuse_encoding e)) _

/-- The failures to load one of some suites that are no misuse. -/
def Untold (w : Surroundings) (s : Settings) (paths : List Text) (f : Failure) : Prop :=
  ∃ path ∈ paths, ∃ bytes, w.file path = .ok bytes ∧ Suite.Untold path s.encoding bytes f

theorem checkSuites_ends {paths : List Text} (hfile : ∀ path ∈ paths, ∃ bytes, w.file path = .ok bytes)
    (hends : ∀ path ∈ paths, Suite.ProgramsEnd w s path) (level : LogLevel) :
    (checkSuites w level s paths).Ends (fun f => f.isMisuse = true ∨ Untold w s paths f)
      fun status => status = .success ∨ status = .flawed := by
  have hsuite : ∀ path ∈ paths, (checkSuite w level s path).Ends
      (fun f => f.isMisuse = true ∨ Untold w s paths f) fun _ => True := by
    intro path hpath
    obtain ⟨bytes, hbytes⟩ := hfile path hpath
    refine (checkSuite_ends hbytes (hends path hpath) level).mono fun f hf => hf.imp_right fun huntold => ?_
    exact ⟨path, hpath, bytes, hbytes, huntold⟩
  refine (Job.Ends.mapM hsuite).bind fun verdicts _ =>
    (Job.Ends.print (fun e => .inl (isMisuse_encoding e)) _).bind fun _ _ => .pure ?_
  split
  · exact .inl rfl
  · exact .inr rfl

omit [WritingRoom] [Yaml.Reader] in
/-- Settings without a blank switch are made, or there is a misuse. -/
theorem Invocation.settings_yields {i : Invocation} (hchunk : i.chunkSize ≠ .blank)
    (hencoding : i.encoding ≠ .blank) (e : Environment) :
    Yields (fun f => f.isMisuse = true) (fun _ => True) (i.settings e) := by
  have hget : ∀ {β : Type} {g : Given β}, g ≠ .blank → ∀ usual what,
      Yields (fun f => f.isMisuse = true) (fun _ => True) (g.get usual what) := by
    intro β g hg usual what
    cases g with
    | absent => exact .ok trivial
    | blank => exact absurd rfl hg
    | value b => exact .ok trivial
  have henvironment : Yields (fun f => f.isMisuse = true) (fun _ => True) (Settings.ofEnvironment e) := by
    rw [Settings.ofEnvironment_eq]
    refine .map ?_
    by_cases hsound : e.Sound
    · obtain ⟨c, hc⟩ := hsound.exists_chunk
      rw [hc]
      exact .ok trivial
    · obtain ⟨f, hf, hmisuse⟩ := e.misuse_of_not_sound hsound
      rw [hf]
      exact .error hmisuse
  refine henvironment.bind fun usual _ => (hget hchunk _ _).bind fun chunk _ =>
    (hget hencoding _ _).bind fun encoding _ => Yields.bind (Q := fun _ => True) (.mapError ?_)
      fun _ _ => .ok trivial
  cases Codecs.find encoding with
  | ok _ => exact .ok trivial
  | error e => exact .error (isMisuse_encoding e)

/-- **A check** succeeds or finds a flaw, or fails with a misuse, or with what is none. -/
theorem perform_ends {i : Invocation} {level : LogLevel} {paths : List Text} (htask : i.task = .check paths)
    (hlevel : i.logLevel.orUsual .warning = some level) (hchunk : i.chunkSize ≠ .blank)
    (hencoding : i.encoding ≠ .blank) (hfile : ∀ path ∈ paths, ∃ bytes, w.file path = .ok bytes)
    (hends : ∀ s, i.settings w.environment = .ok s → ∀ path ∈ paths, Suite.ProgramsEnd w s path) :
    (i.perform w).Ends
      (fun f => f.isMisuse = true ∨ ∃ s, i.settings w.environment = .ok s ∧ Untold w s paths f)
      fun status => status = .success ∨ status = .flawed := by
  have hlevel' : i.logLevel.get .warning .logLevel = .ok level := by rw [Given.get, hlevel]
  have hyields := Invocation.settings_yields hchunk hencoding w.environment
  unfold Invocation.perform
  rw [hlevel', Job.lift_ok_bind, htask]
  cases hs : i.settings w.environment with
  | error f =>
    rw [hs] at hyields
    exact (Job.Ends.lift (Q := fun _ => False) (.error (.inl hyields))).bind fun _ hnone => hnone.elim
  | ok s =>
    exact (checkSuites_ends hfile (hends s hs) level).mono fun f hf =>
      hf.imp_right fun huntold => ⟨s, rfl, huntold⟩

end

/-! ## The theorem -/

/-- **A suite that is none is refused, unless it looks up what cannot be looked up or shows what cannot be
    written.**

    Whatever a document holds, and whatever the name of the encoding: there is a case for each item, in order,
    or the document is refused because of a value that is not acceptable, a text that cannot be written or
    an encoding that there is not.  Or else the first item that is no case names a fault by a value that can
    be changed, and it fails because that cannot be looked up, as it always does then.  Or the first item
    that is no case is told of by a value with more levels than there is room for, and it fails for that.

    So a check of suites in files that can be read, the programs of which end, has one of the statuses for
    success, for a flaw and for a misuse.  Or else it does not, and that is because one of the files holds a
    document that fails like that, and then it has no status at all, or because the reader of files fails
    with what is no misuse. -/
theorem malformed_suites_refused [Codecs] [WritingRoom] [Yaml.Reader] (path encoding : Text)
    (d : Yaml.Document) :
    ((∃ items cases, Suite.items? d = some items ∧ Suite.ofDocument path encoding d = .ok cases ∧
        List.Forall₂ (fun v c => CheckedCase.ofValue encoding v = .ok c) items cases) ∨
      (∃ f, Suite.ofDocument path encoding d = .error f ∧ f.Refuses encoding) ∨
      (∃ part, Suite.LooksUp encoding d part ∧
        Suite.ofDocument path encoding d = .error (.unhashable part.typeName)) ∨
      ∃ shown, Suite.ShowsNested encoding d shown ∧
        Suite.ofDocument path encoding d = .error Value.tooNested) ∧
    (∀ part, Suite.LooksUp encoding d part →
      Suite.ofDocument path encoding d = .error (.unhashable part.typeName)) ∧
    ∀ (arguments : List Text) (w : Surroundings) (i : Invocation) (level : LogLevel) (paths : List Text),
      Invocation.ofArguments arguments = .ok i → i.task = .check paths →
      i.logLevel.orUsual .warning = some level → i.chunkSize ≠ .blank → i.encoding ≠ .blank →
      (∀ path ∈ paths, ∃ bytes, w.file path = .ok bytes) →
      (∀ s, i.settings w.environment = .ok s → ∀ path ∈ paths, Suite.ProgramsEnd w s path) →
      (∃ status, (run arguments w).1 = .ok status ∧
        (status.code = 0 ∨ status.code = 1 ∨ status.code = 3)) ∨
      ∃ s path bytes, i.settings w.environment = .ok s ∧ path ∈ paths ∧ w.file path = .ok bytes ∧
        ((∃ d part, Yaml.Reader.read path bytes = .ok d ∧ Suite.LooksUp s.encoding d part ∧
            (run arguments w).1 = .error (.unhashable part.typeName)) ∨
          (∃ d shown, Yaml.Reader.read path bytes = .ok d ∧ Suite.ShowsNested s.encoding d shown ∧
            (run arguments w).1 = .error Value.tooNested) ∨
          ∃ f, Yaml.Reader.read path bytes = .error f ∧ f.isMisuse = false ∧
            (run arguments w).1 = toldResult (.error f)) := by
  refine ⟨?_, fun part h => Suite.ofDocument_of_looksUp h path, ?_⟩
  · have hyields := Suite.ofDocument_yields path encoding d
    cases hloaded : Suite.ofDocument path encoding d with
    | ok cases =>
      rw [hloaded] at hyields
      obtain ⟨items, hitems, hall⟩ := hyields
      exact .inl ⟨items, cases, hitems, rfl, hall⟩
    | error f =>
      rw [hloaded] at hyields
      rcases hyields with hrefuses | ⟨part, hlooks, rfl⟩ | ⟨shown, hshows, rfl⟩
      · exact .inr (.inl ⟨f, rfl, hrefuses⟩)
      · exact .inr (.inr (.inl ⟨part, hlooks, rfl⟩))
      · exact .inr (.inr (.inr ⟨shown, hshows, rfl⟩))
  · intro arguments w i level paths hi htask hlevel hchunk hencoding hfile hends
    have hcommand : command arguments w = told (i.perform w) := by rw [command, hi]
    have hresult : (run arguments w).1 = toldResult ((i.perform w).after {}).1 := by
      rw [run, hcommand, Job.result_told]
    have hended := perform_ends htask hlevel hchunk hencoding hfile hends {}
    rw [hresult]
    cases hperform : ((i.perform w).after {}).1 with
    | ok status =>
      rw [hperform] at hended
      refine .inl ⟨status, rfl, ?_⟩
      rcases hended with rfl | rfl <;> decide
    | error f =>
      rw [hperform] at hended
      rcases hended with hmisuse | ⟨s, hs, path, hpath, bytes, hbytes, huntold⟩
      · exact .inl ⟨.misused, toldResult_of_status (statusOf_misuse hmisuse), .inr (.inr rfl)⟩
      · refine .inr ⟨s, path, bytes, hs, hpath, hbytes, ?_⟩
        cases huntold with
        | reading hread h => exact .inr (.inr ⟨f, hread, h, rfl⟩)
        | lookUp hread h => exact .inl ⟨_, _, hread, h, rfl⟩
        | nested hread h => exact .inr (.inl ⟨_, _, hread, h, rfl⟩)

/-- A fault that there is not is refused, and a check of such a suite behind a suite that is one has a
    status. -/
theorem malformed_suites_refused_at_unknown :
    (∃ f, Suite.ofDocument "suite.yaml" "utf-8" (Suite.ofOne "error" (.text "z")) = .error f ∧
      f.Refuses "utf-8") ∧
    ∃ status, (run ["check", "a", "b"] (.holding [("a", "- name: x\n  program: +.\n  expected: [1]\n"),
      ("b", "- name: y\n  program: +\n  error: z\n")])).1 = .ok status ∧
        (status.code = 0 ∨ status.code = 1 ∨ status.code = 3) := by
  obtain ⟨hrefused, -, hchecked⟩ := malformed_suites_refused "suite.yaml" "utf-8"
    (Suite.ofOne "error" (.text "z"))
  refine ⟨?_, ?_⟩
  · have hload : Suite.ofDocument "suite.yaml" "utf-8" (Suite.ofOne "error" (.text "z")) =
        .error (.shape (.unknownFault (.text "x") (.text "z"))) := rfl
    rcases hrefused with ⟨items, cases, -, hcases, -⟩ | h | ⟨part, -, hlooked⟩ | ⟨shown, -, hnested⟩
    · exact nomatch hcases.symm.trans hload
    · exact h
    · exact nomatch hlooked.symm.trans hload
    · exact nomatch hnested.symm.trans hload
  · generalize hw : Surroundings.holding [("a", "- name: x\n  program: +.\n  expected: [1]\n"),
      ("b", "- name: y\n  program: +\n  error: z\n")] = w
    have hended : ∀ path ∈ (["a", "b"] : List Text),
        ∀ c ∈ (Suite.load w.file path "utf-8").toOption.getD [],
        (c.toCase.judge w.budget {}).toOption.isSome = true := by
      subst hw
      decide +kernel
    have hloaded : ∀ path ∈ (["a", "b"] : List Text), Yields (fun f : Failure => f.isMisuse = true)
        (fun _ => True) (Suite.load w.file path "utf-8") := by
      subst hw
      decide +kernel
    have hstatus : (run ["check", "a", "b"] w).1.toOption.isSome = true := by
      subst hw
      decide +kernel
    have hsettings : Invocation.settings ⟨.absent, .absent, .absent, .check ["a", "b"]⟩ w.environment =
        .ok {} := by
      subst hw
      rfl
    have hfile : ∀ path ∈ (["a", "b"] : List Text), ∃ bytes, w.file path = .ok bytes := by
      subst hw
      exact List.forall_mem_cons.2 ⟨⟨_, rfl⟩, List.forall_mem_singleton.2 ⟨_, rfl⟩⟩
    have hends : ∀ s, Invocation.settings ⟨.absent, .absent, .absent, .check ["a", "b"]⟩ w.environment =
        .ok s → ∀ path ∈ (["a", "b"] : List Text), Suite.ProgramsEnd w s path := by
      intro s hs path hpath cases hload c hc
      cases hsettings.symm.trans hs
      have hall := hended path hpath
      rw [show Suite.load w.file path "utf-8" = .ok cases from hload] at hall
      exact Suite.ends_of_judge (hall c hc)
    rcases hchecked ["check", "a", "b"] w
      ⟨.absent, .absent, .absent, .check ["a", "b"]⟩ .warning ["a", "b"] rfl rfl rfl
      (fun hblank => nomatch hblank) (fun hblank => nomatch hblank) hfile hends with
      h | ⟨s, path, bytes, -, hpath, hbytes, ⟨_, _, -, -, herror⟩ | ⟨_, _, -, -, herror⟩ |
        ⟨f, hread, hmisuse, -⟩⟩
    · exact h
    · rw [herror] at hstatus
      cases hstatus
    · rw [herror] at hstatus
      cases hstatus
    · -- both files are read
      have hfails : Suite.load w.file path "utf-8" = .error f := by
        rw [Suite.load, hbytes, ok_bind, hread]
        rfl
      have hyields := hloaded path hpath
      rw [hfails] at hyields
      exact absurd (hmisuse.symm.trans hyields) Bool.false_ne_true

/-- **Suites that are not refused.**  The name of a fault in one is a list, and the failure is that of a value
    of the wrong type.  The command has no status.  The name of the case in another has a level more than
    there is room for, however much that is. -/
theorem list_looked_up : (∃ f,
    Suite.load (Surroundings.holding [("b", "- name: y\n  program: +\n  error: []\n")]).file "b"
      "utf-8" = .error f ∧ f.category = .type ∧ ¬ f.Refuses "utf-8" ∧
    (run ["check", "b"] (.holding [("b", "- name: y\n  program: +\n  error: []\n")])).1 = .error f) ∧
    ∀ levels, @Suite.ofDocument _ ⟨levels⟩ "suite.yaml" "utf-8" (Suite.ofName (.nested (levels + 1))) =
      .error Value.tooNested := by
  refine ⟨?_, fun levels => ?_⟩
  rotate_left
  · have hwrite : @Value.write ⟨levels⟩ (.nested (levels + 1)) = .error Value.tooNested :=
      Value.tryWriting_nested (Nat.le_succ levels)
    exact @Suite.ofDocument_nested ⟨levels⟩ _ rfl hwrite
  generalize hw : Surroundings.holding [("b", "- name: y\n  program: +\n  error: []\n")] = w
  have hyields : Yields (fun f : Failure => f.category = .type) (fun _ => False)
      (Suite.load w.file "b" "utf-8") := by
    subst hw
    decide +kernel
  cases hload : Suite.load w.file "b" "utf-8" with
  | ok cases =>
    rw [hload] at hyields
    exact hyields.elim
  | error f =>
    rw [hload] at hyields
    have htype : f.category = .type := hyields
    have hmisuse : f.isMisuse = false := by rw [Failure.isMisuse, htype]
    have hstatus : statusOf f = none := by
      unfold statusOf
      rw [htype, hmisuse]
      rfl
    have hi : Invocation.ofArguments ["check", "b"] =
        .ok ⟨.absent, .absent, .absent, .check ["b"]⟩ := rfl
    have hs : Invocation.settings ⟨.absent, .absent, .absent, .check ["b"]⟩ w.environment = .ok {} := by
      subst hw
      rfl
    have hnone : ∀ path ∈ ([] : List Text), Suite.Reportable w {} (fun _ => []) path :=
      fun _ hnone => (List.not_mem_nil hnone).elim
    have hsuites : (checkSuites w .warning {} ["b"]).Adds _ _ (.error f) :=
      checkSuites_adds_error hnone hload .warning
    have hrun := run_of_adds hi rfl hs hsuites
    refine ⟨f, rfl, htype, fun hrefuses => ?_, ?_⟩
    · exact Bool.noConfusion (hmisuse.symm.trans hrefuses.isMisuse)
    · rw [hrun]
      exact toldResult_of_none hstatus

end CommandLine

end TapeLang
