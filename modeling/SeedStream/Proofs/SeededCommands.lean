import SeedStream.CommandLine.Run
import SeedStream.Proofs.BuiltSettings
import SeedStream.Proofs.CommandWords
import SeedStream.Proofs.Digits
import SeedStream.Proofs.ReferenceStreams

/-!
# Seeded command lines

A run of `generate` with a seed that is not zero modulo `2 ^ 32` prints the outputs of that seed and nothing else,
whatever the source, the clock, the entropy device, the file tree and the facilities are: none of them is asked
for anything that reaches a line, and none of them can make the run fail.
-/

namespace SeedStream

open State

/-! ## The text of a word -/

/-- How a text format writes a word: a mark and eight hexadecimal digits in capital letters, or the decimal
    digits of its number. -/
def Format.wordText : Format → Word → List Char
  | dec, w => Nat.toDigits 10 w.toNat
  | _, w => '0' :: 'x' :: w.hexDigits.map Numeral.digitChar

theorem Output.lines_eq {format : Format} (textual : format.isBinary = false) (ws : List Word) :
    Output.lines format ws = .ok (ws.map format.wordText) := by
  cases format with
  | hex => exact congrArg Except.ok (List.map_congr_left fun w _ => Word.hex_eq w)
  | dec => exact congrArg Except.ok (List.map_congr_left fun w _ => Numeral.decimal_eq_toDigits w.toNat)
  | bin | npy => cases textual

theorem Generator.coreCount_of_room [Memory] {count : Int} (proper : 0 ≤ count) (room : Room count.toNat) :
    coreCount (.int count) = .ok count.toNat := by
  obtain ⟨n, rfl⟩ := Int.eq_ofNat_of_zero_le proper
  exact fillCount_of_room .deterministic room

theorem Generator.coreCount_of_no_room [Memory] {count : Int} (proper : 0 ≤ count) (full : ¬ Room count.toNat) :
    ∃ e, coreCount (.int count) = .error e := by
  obtain ⟨n, rfl⟩ := Int.eq_ofNat_of_zero_le proper
  exact fillCount_of_no_room .deterministic full

namespace CommandLine

/-! ## The settings of a run -/

/-- The options ask for words of a seed on lines, with no protocol and no file. -/
structure Flags.Asks (f : Flags) (seed count : Int) (format : Format) : Prop where
  seed : f.seed = some (.value seed)
  count : f.count = some (.value count)
  format : f.format = some (.value format)
  source : f.source ≠ some .emptied
  output : f.output = .none
  protocol : f.protocol = .none

/-- A command line asks for words of a seed on lines. -/
def Asks (words : List Text) (seed count : Int) (format : Format) : Prop :=
  ∃ f : Flags, parse words = .ok (.command (.generate f)) ∧ f.Asks seed count format

theorem ofValue_sourceName (n : SourceName) : SourceName.ofValue (.text (Text.ofString n.text)) = .ok n := by
  cases n <;> rfl

/-- Whatever the source is, such options make settings that make sense, the same on every machine. -/
theorem settingsOf_of_asks {f : Flags} {seed count : Int} {format : Format} (asks : f.Asks seed count format)
    (samples : f.samples = .none) (proper : 0 ≤ count) :
    ∃ s source, (∀ m, settingsOf m f = .ok (s, source)) ∧ s.seed = some seed ∧ s.count = count ∧ s.format = format ∧
      s.output = none := by
  obtain ⟨seedGiven, countGiven, formatGiven, sourceGiven, noOutput, noProtocol⟩ := asks
  have counted : (f.over Settings.standard).count = count := by
    rw [Flags.over, countGiven]
    rfl
  have enough : 0 < (f.over Settings.standard).samples := by
    rw [Flags.over, samples]
    exact (by decide : (0 : Int) < 65536)
  obtain ⟨source, known⟩ : ∃ source, SourceName.parse? (f.over Settings.standard).source = some source := by
    cases given : f.source with
    | none => exact ⟨.auto, by rw [Flags.over, given]; rfl⟩
    | some g =>
      cases g with
      | emptied => exact absurd given sourceGiven
      | value n => exact ⟨n, by rw [Flags.over, given]; exact ofValue_text_eq_ok_iff.mp (ofValue_sourceName n)⟩
  have accepted : f.Accepts (f.over Settings.standard) source :=
    ⟨sourceGiven, known, by rw [formatGiven]; nofun, by rw [countGiven]; nofun, counted.symm ▸ proper,
      by rw [samples]; nofun, enough⟩
  have settled : f.settings none = .ok (f.over Settings.standard, source) :=
    Flags.settings_eq_ok_iff.mpr ⟨Flags.built_eq_ok_iff.mpr ⟨_, rfl, rfl, accepted⟩, by rw [seedGiven]; nofun⟩
  refine ⟨f.over Settings.standard, source, fun m => ?_, ?_, counted, ?_, ?_⟩
  · rw [settingsOf, noProtocol]
    exact settled
  · rw [Flags.over, seedGiven]
    rfl
  · rw [Flags.over, formatGiven]
    rfl
  · rw [Flags.over, noOutput]
    rfl

/-! ## The run -/

/-- A run that is asked for words of a seed prints those that the core gives, or refuses their count, on every
    machine alike. -/
theorem run_of_asks [Memory] {words : List Text} {seed count : Int} {format : Format}
    (asks : Asks words seed count format) (nonzero : ¬ seed ≡ 0 [ZMOD 2 ^ 32]) (proper : 0 ≤ count)
    (textual : format.isBinary = false) (m : Machine) :
    run m words = match Generator.coreCount (.int count) with
      | .ok n => .told m ((outputs n (ofSeed seed)).map fun w => Text.ofChars (format.wordText w)) .success
      | .error e => .told m [] (endingOf e) := by
  obtain ⟨f, parsed, asks⟩ := asks
  obtain ⟨s, source, settings, seedOf, countOf, formatOf, outputOf⟩ :=
    settingsOf_of_asks asks (ofGenerate_of_parse parsed).samples proper
  -- The seed replaces whatever the source and the machine made of the generator.
  have made : generatorOf m s source = (Generator.ofSource (Native.ofName source m.environment)).setSeed seed := by
    rw [generatorOf, seedOf]
    rfl
  have mode : (generatorOf m s source).mode = .deterministic := by rw [made, Generator.setSeed_of_nonzero nonzero]
  have core : (generatorOf m s source).core = ofSeed seed := by rw [made, Generator.setSeed_of_nonzero nonzero]
  have drew : drawn (generatorOf m s source) s.count =
      (Generator.coreCount (.int count)).map fun n => outputs n (ofSeed seed) := by
    rw [drawn, mode, Generator.fillCount, countOf]
    cases Generator.coreCount (.int count) with
    | error e => rfl
    | ok n =>
      change ((generatorOf m s source).fill n).1 = _
      rw [Generator.fill_seeded n mode, core]
      rfl
  rw [run, parsed]
  change runGenerate m f = _
  rw [runGenerate, settings]
  dsimp only
  rw [drew]
  cases Generator.coreCount (.int count) with
  | error e => rfl
  | ok n =>
    simp only [Except.map, outputOf]
    rw [printWords, formatOf, if_neg (by rw [textual]; exact Bool.false_ne_true), Output.lines_eq textual]
    dsimp only
    rw [List.map_map]
    rfl

/-! ## Lines of a seed -/

/-- The lines for the first outputs of a seed. -/
def seededLines (format : Format) (seed : Int) (n : Nat) : List Text :=
  (List.range n).map fun i => Text.ofChars (format.wordText (advance i (ofSeed seed)).output)

theorem outputs_eq_map_range (n : Nat) (s : State) : outputs n s = (List.range n).map fun i => (advance i s).output := by
  induction n with
  | zero => rfl
  | succ n ih => rw [outputs_add_one, List.range_succ, List.map_append, ih, List.map_singleton]

theorem seededLines_eq (format : Format) (seed : Int) (n : Nat) :
    seededLines format seed n = (outputs n (ofSeed seed)).map fun w => Text.ofChars (format.wordText w) := by
  rw [seededLines, outputs_eq_map_range, List.map_map]
  rfl

/-- Every seed that can be read and is not zero modulo `2 ^ 32` can be asked for with every count and source. All
    command lines that ask for the same seed, count and text format print the same and end alike, on any two
    machines and with any two sources. With room for the words, whatever the memory is, they print a line for each
    of the first outputs of the seed; in hexadecimal these are the outputs of its reference. Without room they
    print nothing and fail. -/
theorem seeded_lines_ignore_environment [Memory] {seed count : Int} {format : Format}
    (nonzero : ¬ seed ≡ 0 [ZMOD 2 ^ 32]) (proper : 0 ≤ count) (textual : format.isBinary = false) :
    (∀ seedText countText : Text, Integer.parse .marked seedText.chars = .ok seed →
        Integer.parse .plain countText.chars = .ok count → ∀ source : Option SourceName,
          ∃ f : Flags, parse (generateLine seedText countText format source) = .ok (.command (.generate f)) ∧
            f.Asks seed count format ∧ f.source = source.map .value) ∧
      (∀ words words', Asks words seed count format → Asks words' seed count format → ∀ m m' : Machine,
        (run m words).printed = (run m' words').printed ∧ (run m words).ending = (run m' words').ending) ∧
      (Generator.Room count.toNat → ∀ words, Asks words seed count format → ∀ m : Machine,
        run m words = .told m (seededLines format seed count.toNat) .success) ∧
      (¬ Generator.Room count.toNat → ∃ e, ∀ words, Asks words seed count format → ∀ m : Machine,
        run m words = .told m [] (endingOf e)) ∧
      ∃ r, Reference.ofValues (.int seed) (.int count) = .ok r ∧
        seededLines .hex seed count.toNat = r.outputs.map Text.ofString := by
  have proper' : seed ≠ 0 := by
    rintro rfl
    exact nonzero (Int.ModEq.refl 0)
  refine ⟨fun seedText countText seedRead countRead source => ?_, fun words words' asks asks' m m' => ?_,
    fun room words asks m => ?_, fun full => ?_, Reference.describe seed count, ?_, ?_⟩
  · exact ⟨.asking seed count format source, parse_generateLine seedRead countRead format source,
      ⟨rfl, rfl, rfl, by cases source <;> nofun, rfl, rfl⟩, rfl⟩
  · rw [run_of_asks asks nonzero proper textual, run_of_asks asks' nonzero proper textual]
    cases Generator.coreCount (.int count) with
    | error e => exact ⟨rfl, rfl⟩
    | ok n => exact ⟨rfl, rfl⟩
  · rw [run_of_asks asks nonzero proper textual, Generator.coreCount_of_room proper room, seededLines_eq]
  · obtain ⟨e, refused⟩ := Generator.coreCount_of_no_room proper full
    exact ⟨e, fun words asks m => by rw [run_of_asks asks nonzero proper textual, refused]⟩
  · rw [Reference.ofValues_int, if_neg proper']
  · rw [seededLines_eq, Reference.describe, List.map_map]
    refine List.map_congr_left fun w _ => congrArg Text.ofChars ?_
    exact (Word.hex_eq w).symm

section

attribute [local instance] Memory.standard

/-- The seed `-0x10` with the source named between its options, on a machine whose device answers each request
    with a failure of another kind and whose clock goes backwards, and on one where all goes well. -/
theorem seeded_lines_ignore_environment_failing :
    ¬ (-16 : Int) ≡ 0 [ZMOD 2 ^ 32] ∧ (0 : Int) ≤ 2 ∧ Format.dec.isBinary = false ∧
      Generator.Room (2 : Int).toNat ∧
      Integer.parse .marked "-0x10".toList = .ok (-16) ∧ Integer.parse .plain " +2".toList = .ok 2 ∧
      Asks ["generate", "--count", "2", "--source=auto", "--format", "dec", "--seed", "9", "--seed=-0x10"] (-16) 2 .dec ∧
      run ⟨Environment.fresh (fun k => -k) fun _ => .raised (.missing .plotting), ⟨Path.ofText "/", []⟩, []⟩
          ["generate", "--count", "2", "--source=auto", "--format", "dec", "--seed", "9", "--seed=-0x10"] =
        .told ⟨Environment.fresh (fun k => -k) fun _ => .raised (.missing .plotting), ⟨Path.ofText "/", []⟩, []⟩
          (seededLines .dec (-16) 2) .success := by
  have nonzero : ¬ (-16 : Int) ≡ 0 [ZMOD 2 ^ 32] := by decide
  have room : Generator.Room (2 : Int).toNat := ⟨by decide, by decide⟩
  have asks : Asks ["generate", "--count", "2", "--source=auto", "--format", "dec", "--seed", "9", "--seed=-0x10"]
      (-16) 2 .dec :=
    ⟨.asking (-16) 2 .dec (some .auto), rfl, ⟨rfl, rfl, rfl, nofun, rfl, rfl⟩⟩
  obtain ⟨-, -, printed, -⟩ := @seeded_lines_ignore_environment _ (-16) 2 .dec nonzero (by decide) rfl
  exact ⟨nonzero, by decide, rfl, room, rfl, rfl, asks, printed room _ asks _⟩

/-- A count of `2 ^ 62` is read and makes sense, but no array has so many words: the run prints none of the lines that
    it was asked for. -/
theorem unroomed_count_prints_nothing :
    let m : Machine := ⟨Environment.fresh (fun k => k) fun _ => .bytes [], ⟨Path.ofText "/", []⟩, []⟩
    let words : List Text := ["generate", "--seed", "1", "--count", "4611686018427387904", "--format", "hex"]
    Asks words 1 (2 ^ 62) .hex ∧ ¬ (1 : Int) ≡ 0 [ZMOD 2 ^ 32] ∧ (0 : Int) ≤ 2 ^ 62 ∧
      run m words = .told m [] (.usage ⟨none, .refused (.value .arraySize)⟩) := by
  intro m words
  have nonzero : ¬ (1 : Int) ≡ 0 [ZMOD 2 ^ 32] := by decide
  have asks : Asks words 1 (2 ^ 62) .hex := ⟨.asking 1 (2 ^ 62) .hex none, rfl, ⟨rfl, rfl, rfl, nofun, rfl, rfl⟩⟩
  refine ⟨asks, nonzero, by decide, ?_⟩
  rw [run_of_asks asks nonzero (by decide) rfl]
  rfl

end

end CommandLine

end SeedStream
