/-
  Override — what of the environment reaches a command that is given both settings.

  The environment is made settings of before the arguments replace them.  The encoding of the environment
  is a mere name until then, so nothing of it is left.  The size of a chunk has to be read first.

  The crux is `Invocation.settings_eq`: with both switches there, the settings are those without any
  environment, as soon as the environment has a chunk at all (`Environment.chunk`).  So a command sees of
  the environment whether the size of a chunk in it makes sense, and if it does not, the command sees why.
-/
import TapeLang.Proofs.Jobs

namespace TapeLang

/-! ## The chunk of an environment -/

namespace Environment

/-- The chunk that an environment sets. -/
def chunk (e : Environment) : Except Failure Chunk := do
  let n ← match e.chunkSize with
    | none => pure 100
    | some t => t.integer?
  Chunk.ofInt n

/-- The size of a chunk is a positive integer, if the environment has one. -/
def Sound (e : Environment) : Prop := ∀ t, e.chunkSize = some t → ∃ n, t.integer? = .ok n ∧ 0 < n

theorem chunk_of_absent {e : Environment} (h : e.chunkSize = none) : e.chunk = Chunk.ofInt 100 := by
  rw [chunk, h]
  rfl

theorem chunk_of_some {e : Environment} {t : Text} (h : e.chunkSize = some t) :
    e.chunk = t.integer? >>= Chunk.ofInt := by
  rw [chunk, h]

/-- A sound environment has a chunk. -/
theorem Sound.exists_chunk {e : Environment} (h : e.Sound) : ∃ c, e.chunk = .ok c := by
  cases hsize : e.chunkSize with
  | none => exact ⟨⟨100, by decide⟩, chunk_of_absent hsize⟩
  | some t =>
    obtain ⟨n, hn, hpos⟩ := h t hsize
    refine ⟨⟨n.toNat, by omega⟩, ?_⟩
    rw [chunk_of_some hsize, hn, ok_bind, Chunk.ofInt, dif_pos (by omega)]

/-- An environment that is not sound has none, for a reason that can be told. -/
theorem misuse_of_not_sound {e : Environment} (h : ¬ e.Sound) :
    ∃ f, e.chunk = .error f ∧ f.isMisuse = true := by
  simp only [Sound, not_forall] at h
  obtain ⟨t, hsize, hnone⟩ := h
  rw [chunk_of_some hsize]
  cases ht : t.toInteger with
  | error reason =>
    refine ⟨.numeral t reason, ?_, rfl⟩
    rw [Text.integer?, ht]
    rfl
  | ok n =>
    have hn : t.integer? = .ok n := by rw [Text.integer?, ht]; rfl
    refine ⟨.chunkSize n, ?_, rfl⟩
    have hsmall : ¬ 0 < n.toNat := fun hpos => hnone ⟨n, hn, by omega⟩
    rw [hn, ok_bind, Chunk.ofInt, dif_neg hsmall]

end Environment

/-- The settings of an environment are its chunk and its encoding. -/
theorem Settings.ofEnvironment_eq (e : Environment) :
    ofEnvironment e = e.chunk.map fun c => ⟨c, e.encoding.getD "utf-8"⟩ := by
  cases hsize : e.chunkSize with
  | none =>
    rw [ofEnvironment, hsize, Environment.chunk_of_absent hsize]
    rfl
  | some t =>
    rw [ofEnvironment, hsize, Environment.chunk_of_some hsize]
    dsimp only
    cases t.integer? <;> rfl

namespace CommandLine

/-! ## Settings that are given -/

/-- What a switch says does not hang on what is usual, if the switch is there. -/
theorem Given.get_eq {β : Type} {g : Given β} (h : g ≠ .absent) (usual usual' : β) (what : Blank) :
    g.get usual what = g.get usual' what := by
  cases g with
  | absent => exact absurd rfl h
  | blank => rfl
  | value b => rfl

/-- **The crux.**  With both switches there, an environment that has a chunk is as good as none. -/
theorem Invocation.settings_eq [Codecs] {i : Invocation} (hchunk : i.chunkSize ≠ .absent)
    (hencoding : i.encoding ≠ .absent) (e : Environment) :
    i.settings e = e.chunk >>= fun _ => i.settings {} := by
  have hnone : Settings.ofEnvironment {} = .ok {} := rfl
  rw [settings, Settings.ofEnvironment_eq]
  cases e.chunk with
  | error f => rfl
  | ok c =>
    have hsize := Given.get_eq hchunk c ({} : Settings).chunk .chunkSize
    have hname := Given.get_eq hencoding (e.encoding.getD "utf-8") ({} : Settings).encoding .encoding
    rw [ok_bind, settings, hnone]
    simp only [Except.map, ok_bind, hsize, hname]

/-- A command sees of the environment only the settings that it makes with it. -/
theorem command_eq [Codecs] [WritingRoom] [Yaml.Reader] {arguments : List Text} {w : Surroundings}
    {e₁ e₂ : Environment}
    (h : ∀ i, Invocation.ofArguments arguments = .ok i → i.settings e₁ = i.settings e₂) :
    command arguments { w with environment := e₁ } = command arguments { w with environment := e₂ } := by
  unfold command
  cases hi : Invocation.ofArguments arguments with
  | error r => rfl
  | ok i =>
    dsimp only
    unfold Invocation.perform
    rw [h i hi]
    rfl

/-! ## The theorem -/

/-- **Switches override a sound environment.**  Let arguments that are taken have both switches.  Then the
    command does the same in any two environments in which the size of a chunk makes sense, or is the same
    text, whatever they name as the encoding: it has the same result and writes the same.  In an environment
    in which the size of a chunk makes no sense the command does nothing but tell so, with the status
    of a misuse. -/
theorem switches_override_sound [Codecs] [WritingRoom] [Yaml.Reader] {arguments : List Text}
    (h : ∀ i, Invocation.ofArguments arguments = .ok i → i.chunkSize ≠ .absent ∧ i.encoding ≠ .absent)
    (w : Surroundings) :
    (∀ e₁ e₂ : Environment, e₁.Sound ∧ e₂.Sound ∨ e₁.chunkSize = e₂.chunkSize →
      run arguments { w with environment := e₁ } = run arguments { w with environment := e₂ }) ∧
    ∀ (e : Environment) (i : Invocation), ¬ e.Sound → Invocation.ofArguments arguments = .ok i →
      i.logLevel ≠ .blank → ∃ f, Settings.ofEnvironment e = .error f ∧ f.isMisuse = true ∧
        run arguments { w with environment := e } = (.ok .misused, ⟨#[], (failureLine f).toArray⟩) := by
  refine ⟨fun e₁ e₂ he => ?_, fun e i he hi hlevel => ?_⟩
  · have hsettings : ∀ i, Invocation.ofArguments arguments = .ok i → i.settings e₁ = i.settings e₂ := by
      intro i hi
      obtain ⟨hchunk, hencoding⟩ := h i hi
      rw [i.settings_eq hchunk hencoding e₁, i.settings_eq hchunk hencoding e₂]
      rcases he with ⟨h₁, h₂⟩ | hsame
      · obtain ⟨c₁, hc₁⟩ := h₁.exists_chunk
        obtain ⟨c₂, hc₂⟩ := h₂.exists_chunk
        rw [hc₁, hc₂, ok_bind, ok_bind]
      · rw [Environment.chunk, Environment.chunk, hsame]
    rw [run, run, command_eq hsettings]
  · obtain ⟨f, hf, hmisuse⟩ := Environment.misuse_of_not_sound he
    have hstatus := statusOf_misuse hmisuse
    obtain ⟨level, hlevel⟩ : ∃ level, i.logLevel.orUsual .warning = some level := by
      cases hgiven : i.logLevel with
      | absent => exact ⟨_, rfl⟩
      | blank => exact absurd hgiven hlevel
      | value level => exact ⟨_, rfl⟩
    have hsettings : i.settings e = .error f := by
      rw [Invocation.settings, Settings.ofEnvironment_eq, hf]
      rfl
    have hrun := run_of_settings_error (w := { w with environment := e }) hi hlevel hsettings
    rw [toldResult_of_status hstatus, toldLine_of_status hstatus] at hrun
    exact ⟨f, by rw [Settings.ofEnvironment_eq, hf]; rfl, hmisuse, hrun⟩

/-- An encoding of the environment that there is not makes no difference, and no chunk at all does. -/
theorem switches_override_sound_at_one :
    run ["--chunk-size", "5", "--encoding", "utf-8", "run", "-e", "+."]
      { Surroundings.holding [] with environment := { chunkSize := some "1", encoding := some "nope" } } =
    run ["--chunk-size", "5", "--encoding", "utf-8", "run", "-e", "+."] (.holding []) ∧
    (run ["--chunk-size", "5", "--encoding", "utf-8", "run", "-e", "+."]
      { Surroundings.holding [] with environment := { chunkSize := some "0" } }).1 = .ok .misused := by
  have hi : Invocation.ofArguments ["--chunk-size", "5", "--encoding", "utf-8", "run", "-e", "+."] =
      .ok ⟨.value ⟨5, by decide⟩, .value "utf-8", .absent, .run (.argument "+.") (.argument [])⟩ := rfl
  have hgiven : ∀ i, Invocation.ofArguments ["--chunk-size", "5", "--encoding", "utf-8", "run", "-e", "+."] =
      .ok i → i.chunkSize ≠ .absent ∧ i.encoding ≠ .absent := by
    intro i h
    cases hi.symm.trans h
    exact ⟨by simp, by simp⟩
  obtain ⟨hsound, hunsound⟩ := switches_override_sound hgiven (.holding [])
  have hone : Environment.Sound { chunkSize := some "1", encoding := some "nope" } := by
    intro t ht
    cases ht
    exact ⟨1, rfl, by decide⟩
  have hzero : ¬ Environment.Sound { chunkSize := some "0" } := by
    intro h
    obtain ⟨n, hn, hpos⟩ := h "0" rfl
    have hread : Text.integer? "0" = .ok 0 := rfl
    rw [hread] at hn
    cases hn
    exact absurd hpos (by decide)
  have hnone : Environment.Sound {} := fun t ht => nomatch ht
  obtain ⟨f, -, -, hrun⟩ := hunsound _ _ hzero hi (by simp)
  exact ⟨hsound _ _ (.inl ⟨hone, hnone⟩), by rw [hrun]⟩

/-- **A switch that does not override.**  The size of a chunk in the environment is no number, and the command
    is refused although it is told another size. -/
theorem chunk_not_overridden :
    run ["--chunk-size", "5", "--encoding", "utf-8", "run", "-e", "+."] (.holding []) =
      (.ok .success, ⟨#[1], #[]⟩) ∧
    (run ["--chunk-size", "5", "--encoding", "utf-8", "run", "-e", "+."]
      { Surroundings.holding [] with environment := { chunkSize := some "abc" } }).1 = .ok .misused :=
  ⟨rfl, rfl⟩

end CommandLine

end TapeLang
