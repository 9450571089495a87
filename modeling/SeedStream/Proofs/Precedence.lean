import SeedStream.Proofs.BuiltSettings
import SeedStream.Proofs.CommandWords
import SeedStream.Proofs.NormalTexts

/-!
# Precedence

Every field of built settings is chosen by itself (`Chosen`): what its option was given counts before what the
mapping says, and that before the standard. So an option changes no field but its own, and a zero that an option
was given counts as any number does. The mapping has to make settings by itself, with its own numbers in their
ranges, even where options take the place of them; its source alone is looked at only if no option names one
(`CommandLine.settings_precedence`).
-/

namespace SeedStream

/-! ## Names of sources -/

namespace SourceName

theorem parse?_eq_some_iff {t : Text} {n : SourceName} : parse? t = some n ↔ Text.normal t = Text.ofString n.text := by
  constructor
  · intro found
    exact (beq_iff_eq.mp (List.find?_some (p := fun n : SourceName => n.text == Text.normal t) found)).symm
  · intro same
    rw [parse?, show Text.lower (Text.strip t) = _ from same]
    cases n <;> rfl

theorem normal_text (n : SourceName) : Text.normal (Text.ofString n.text) = Text.ofString n.text := by
  cases n <;> rfl

theorem parse?_normal (t : Text) : parse? (Text.normal t) = parse? t := by
  refine Option.ext fun n => ?_
  rw [parse?_eq_some_iff, parse?_eq_some_iff]
  constructor
  · intro same
    have ascii : ∀ l ∈ Text.ofString n.text, Text.IsAscii l := by
      have low : n.text.toList.all (fun c => decide (c.toNat < 128)) = true := by cases n <;> rfl
      intro l member
      obtain ⟨c, inside, rfl⟩ := List.mem_map.mp member
      exact ⟨c, rfl, of_decide_eq_true (List.all_eq_true.mp low c inside)⟩
    rwa [Text.normal_normal (same ▸ ascii)] at same
  · intro same
    rw [same, normal_text]

end SourceName

/-! ## Fields of a mapping -/

/-- The value is null. -/
def Value.isNull : Value → Bool
  | null => true
  | _ => false

namespace Settings

theorem fieldOr_seedOf (field : Option Value) : fieldOr none seedOf field =
    fieldOr none (fun v => v.toInteger.map some) (field.filter (!·.isNull)) := by
  cases field with
  | none => rfl
  | some v => cases v <;> rfl

theorem fieldOr_outputPath (field : Option Value) : fieldOr none outputPath field =
    fieldOr none outputPath (field.filter Value.isGiven) := by
  cases field with
  | none => rfl
  | some v =>
    cases given : v.isGiven with
    | true => rw [Option.filter_some_pos given]
    | false =>
      rw [Option.filter_some_neg given]
      change outputPath v = .ok none
      unfold outputPath
      rw [given]
      rfl

theorem either_eq_or (first second : Text) (fields : List (Text × Value)) :
    either first second fields = (Value.field? first fields).or (Value.field? second fields) := by
  rw [either]
  cases Value.field? first fields <;> rfl

end Settings

namespace CommandLine

/-! ## The choice of a field -/

section

variable {α β : Type}

/-- How a field comes to hold what it holds: from its option, which may have been emptied, or from the field of
    the mapping, converted, or from the standard. -/
inductive Chosen (given : Option (Given β)) (ofOption : β → α) (field : Option Value)
    (convert : Value → Except Failure α) (standard : α) : Given α → Prop
  | byOption {b : β} (set : given = some (.value b)) : Chosen given ofOption field convert standard (.value (ofOption b))
  | emptied (set : given = some .emptied) : Chosen given ofOption field convert standard .emptied
  | byField {v : Value} {a : α} (unset : given = none) (found : field = some v) (converted : convert v = .ok a) :
    Chosen given ofOption field convert standard (.value a)
  | byStandard (unset : given = none) (absent : field = none) :
    Chosen given ofOption field convert standard (.value standard)

/-- What a field holds that is set to a value unless its option was emptied. -/
def held (given : Option (Given β)) (a : α) : Given α :=
  match given with
  | some .emptied => .emptied
  | _ => .value a

/-- What counts of an option and the value that it takes the place of. -/
def inEffect (given : Option (Given β)) (base : β) : Given β :=
  given.getD (.value base)

variable {given : Option (Given β)} {ofOption : β → α} {field : Option Value} {convert : Value → Except Failure α}
  {standard : α}

theorem Chosen.unique {r t : Given α} (first : Chosen given ofOption field convert standard r)
    (second : Chosen given ofOption field convert standard t) : r = t := by
  cases first with
  | byOption set =>
    cases second with
    | byOption same => rw [Given.value.inj (Option.some.inj (set.symm.trans same))]
    | emptied same => cases set.symm.trans same
    | byField unset => cases set.symm.trans unset
    | byStandard unset => cases set.symm.trans unset
  | emptied set =>
    cases second with
    | byOption same => cases set.symm.trans same
    | emptied => rfl
    | byField unset => cases set.symm.trans unset
    | byStandard unset => cases set.symm.trans unset
  | byField unset found converted =>
    cases second with
    | byOption set => cases unset.symm.trans set
    | emptied set => cases unset.symm.trans set
    | byField _ same again =>
      cases found.symm.trans same
      rw [Except.ok.inj (converted.symm.trans again)]
    | byStandard _ absent => cases found.symm.trans absent
  | byStandard unset absent =>
    cases second with
    | byOption set => cases unset.symm.trans set
    | emptied set => cases unset.symm.trans set
    | byField _ found => cases absent.symm.trans found
    | byStandard => rfl

theorem held_eq_value (proper : given ≠ some .emptied) (a : α) : held given a = .value a := by
  cases given with
  | none => rfl
  | some g =>
    cases g with
    | value b => rfl
    | emptied => exact absurd rfl proper

/-- An option takes the place of what the mapping or the standard gave. -/
theorem chosen_of_fieldOr {base a : α} (based : Settings.fieldOr standard convert field = .ok base)
    (set : a = ((given.bind Given.value?).map ofOption).getD base) :
    Chosen given ofOption field convert standard (held given a) := by
  subst set
  cases given with
  | some g =>
    cases g with
    | value b => exact .byOption rfl
    | emptied => exact .emptied rfl
  | none =>
    cases field with
    | none =>
      cases based
      exact .byStandard rfl rfl
    | some v => exact .byField rfl rfl based

theorem chosen_of_fieldOr_id {convert : Value → Except Failure β} {standard base b : β}
    (based : Settings.fieldOr standard convert field = .ok base) (set : b = (given.bind Given.value?).getD base) :
    Chosen given id field convert standard (held given b) :=
  chosen_of_fieldOr based (by rw [set, Option.map_id_fun, id])

theorem inEffect_iff {base : β} {P : β → Prop} : (∃ b, inEffect given base = .value b ∧ P b) ↔
    given ≠ some .emptied ∧ P ((given.bind Given.value?).getD base) := by
  cases given with
  | none => exact ⟨fun ⟨_, same, holds⟩ => ⟨nofun, Given.value.inj same ▸ holds⟩, fun both => ⟨_, rfl, both.2⟩⟩
  | some g =>
    cases g with
    | value b => exact ⟨fun ⟨_, same, holds⟩ => ⟨nofun, Given.value.inj same ▸ holds⟩, fun both => ⟨_, rfl, both.2⟩⟩
    | emptied => exact ⟨fun ⟨_, same, _⟩ => absurd same (by rintro ⟨⟩), fun both => absurd rfl both.1⟩

end

/-! ## The fields -/

namespace Flags

/-- The text that names the source: that of the option, or of the field of the mapping, or the standard one. -/
def sourceText (f : Flags) (fields : List (Text × Value)) : Text :=
  match f.source with
  | some (.value n) => n.text
  | some .emptied => "[]"
  | .none => ((Value.field? "source" fields).map Value.plain).getD "auto"

/-- What options must meet, given what the mapping makes of the settings. -/
structure Admits (f : Flags) (fields : List (Text × Value)) (base : Settings) : Prop where
  source : ∃ n : SourceName, Text.normal (f.sourceText fields) = Text.ofString n.text
  format : f.format ≠ some .emptied
  count : ∃ i, inEffect f.count base.count = .value i ∧ 0 ≤ i
  samples : ∃ i, inEffect f.samples base.samples = .value i ∧ 0 < i

/-- Where the fields of settings come from. The first spelling of a field counts before the second; a seed of null
    and a path that is not given count as absent. -/
structure Chooses (f : Flags) (fields : List (Text × Value)) (s : Settings) (n : SourceName) : Prop where
  seed : Chosen f.seed some ((Value.field? "seed" fields).filter (!·.isNull)) (fun v => v.toInteger.map some) .none
    (held f.seed s.seed)
  source : Chosen f.source id (Value.field? "source" fields) SourceName.ofValue .auto (.value n)
  count : Chosen f.count id (Value.field? "count" fields) Value.toInteger 16 (.value s.count)
  format : Chosen f.format id ((Value.field? "outputFormat" fields).or (Value.field? "output_format" fields))
    Format.ofValue .hex (.value s.format)
  output : Chosen (f.output.map .value) some
    (((Value.field? "outputPath" fields).or (Value.field? "output_path" fields)).filter Value.isGiven)
    Settings.outputPath .none (.value s.output)
  samples : Chosen f.samples id ((Value.field? "statsSamples" fields).or (Value.field? "stats_samples" fields))
    Value.toInteger 65536 (.value s.samples)
  alpha : Chosen f.alpha id (Value.field? "alpha" fields) Value.toReal Battery.defaultAlpha (held f.alpha s.alpha)
  extra : s.extra = fields

/-- A field of two runs is the same if its option is. -/
structure Agrees (f g : Flags) (s t : Settings) (n m : SourceName) : Prop where
  seed : f.seed = g.seed → held f.seed s.seed = held g.seed t.seed
  source : f.source = g.source → n = m
  count : f.count = g.count → s.count = t.count
  format : f.format = g.format → s.format = t.format
  output : f.output = g.output → s.output = t.output
  samples : f.samples = g.samples → s.samples = t.samples
  alpha : f.alpha = g.alpha → held f.alpha s.alpha = held g.alpha t.alpha
  extra : s.extra = t.extra

variable {f g : Flags} {fields : List (Text × Value)} {base s t : Settings} {n m : SourceName}

theorem Chooses.agrees (first : f.Chooses fields s n) (second : g.Chooses fields t m) : Agrees f g s t n m where
  seed same := by
    have own := first.seed
    rw [same] at own ⊢
    exact own.unique second.seed
  source same := Given.value.inj ((same ▸ first.source).unique second.source)
  count same := Given.value.inj ((same ▸ first.count).unique second.count)
  format same := Given.value.inj ((same ▸ first.format).unique second.format)
  output same := Given.value.inj ((same ▸ first.output).unique second.output)
  samples same := Given.value.inj ((same ▸ first.samples).unique second.samples)
  alpha same := by
    have own := first.alpha
    rw [same] at own ⊢
    exact own.unique second.alpha
  extra := first.extra.trans second.extra.symm

/-- The source is the one that the text in effect names, in whatever letters and with blanks around it. -/
theorem source_iff (made : Settings.IsOf fields base) :
    (f.source ≠ some .emptied ∧ SourceName.parse? (f.over base).source = some n) ↔
      Text.normal (f.sourceText fields) = Text.ofString n.text := by
  have text := made.source
  cases given : f.source with
  | some g =>
    cases g with
    | value k =>
      have effective : (f.over base).source = Text.ofString k.text := by rw [Flags.over, given]; rfl
      rw [effective, SourceName.parse?_eq_some_iff, sourceText, given]
      exact and_iff_right nofun
    | emptied =>
      have unknown : ∀ n : SourceName, Text.normal "[]" ≠ Text.ofString n.text := by
        intro n
        cases n <;> decide
      rw [sourceText, given]
      exact iff_of_false (fun both => both.1 rfl) (unknown n)
  | none =>
    have effective : (f.over base).source = base.source := by rw [Flags.over, given]; rfl
    rw [effective, sourceText, given, and_iff_right nofun]
    cases field : Value.field? "source" fields with
    | none =>
      rw [field] at text
      rw [← Except.ok.inj text, SourceName.parse?_eq_some_iff]
      rfl
    | some v =>
      rw [field] at text
      obtain ⟨t, plain, same⟩ := map_eq_ok_iff.mp text
      have shown : v.plain = t := by
        rw [Value.plainText] at plain
        split at plain <;> cases plain
        rfl
      have normal : base.source = Text.normal v.plain := by rw [← same, shown]; rfl
      rw [normal, SourceName.parse?_normal, SourceName.parse?_eq_some_iff]
      rfl

theorem accepts_iff (made : Settings.IsOf fields base) :
    (∃ n, f.Accepts (f.over base) n) ↔ f.Admits fields base := by
  constructor
  · rintro ⟨n, accepted⟩
    exact ⟨⟨n, (source_iff made).mp ⟨accepted.source, accepted.name⟩⟩, accepted.format,
      inEffect_iff.mpr ⟨accepted.countGiven, accepted.count⟩, inEffect_iff.mpr ⟨accepted.samplesGiven, accepted.samples⟩⟩
  · intro admitted
    obtain ⟨n, named⟩ := admitted.source
    obtain ⟨source, name⟩ := (source_iff made).mpr named
    obtain ⟨countGiven, count⟩ := inEffect_iff.mp admitted.count
    obtain ⟨samplesGiven, samples⟩ := inEffect_iff.mp admitted.samples
    exact ⟨n, source, name, admitted.format, countGiven, count, samplesGiven, samples⟩

theorem isOf_of_baseSettings {mapping : Option (List (Text × Value))} (made : baseSettings mapping = .ok base) :
    Settings.IsOf (mapping.getD []) base :=
  Settings.ofFields_eq_ok_iff.mp (baseSettings_eq mapping ▸ made)

theorem exists_built_iff {mapping : Option (List (Text × Value))} : (∃ s n, f.built mapping = .ok (s, n)) ↔
    ∃ base, baseSettings mapping = .ok base ∧ f.Admits (mapping.getD []) base := by
  constructor
  · rintro ⟨s, n, built⟩
    obtain ⟨base, made, rfl, accepted⟩ := built_eq_ok_iff.mp built
    exact ⟨base, made, (accepts_iff (isOf_of_baseSettings made)).mp ⟨n, accepted⟩⟩
  · rintro ⟨base, made, admitted⟩
    obtain ⟨n, accepted⟩ := (accepts_iff (isOf_of_baseSettings made)).mpr admitted
    exact ⟨f.over base, n, built_eq_ok_iff.mpr ⟨base, made, rfl, accepted⟩⟩

theorem chosen_source (made : Settings.IsOf fields base) (accepted : f.Accepts (f.over base) n) :
    Chosen f.source id (Value.field? "source" fields) SourceName.ofValue .auto (.value n) := by
  have named := (source_iff made).mp ⟨accepted.source, accepted.name⟩
  rw [← SourceName.parse?_eq_some_iff, sourceText] at named
  cases given : f.source with
  | some g =>
    cases g with
    | emptied => exact absurd given accepted.source
    | value k =>
      have own : SourceName.parse? (Text.ofString k.text) = some k :=
        SourceName.parse?_eq_some_iff.mpr (SourceName.normal_text k)
      rw [given] at named
      cases own.symm.trans named
      exact .byOption rfl
  | none =>
    rw [given] at named
    cases field : Value.field? "source" fields with
    | none =>
      rw [field] at named
      cases named
      exact .byStandard rfl rfl
    | some v =>
      rw [field] at named
      have known : SourceName.parse? v.plain = some n := named
      exact .byField rfl rfl (by rw [SourceName.ofValue, known])

/-- A path is never emptied: two dashes are the empty text, which counts as absent. -/
theorem held_output (output path : Option Path) : held (output.map .value) path = .value path := by
  cases output <;> rfl

theorem chooses_of_built {mapping : Option (List (Text × Value))} (built : f.built mapping = .ok (s, n)) :
    f.Chooses (mapping.getD []) s n := by
  obtain ⟨base, made, rfl, accepted⟩ := built_eq_ok_iff.mp built
  have isOf := isOf_of_baseSettings made
  -- An option that fills an optional field takes its place as one that replaces a value does.
  have fills {β : Type} (given b : Option β) : given.or b = (given.map some).getD b := by
    cases given <;> rfl
  constructor
  case seed => exact chosen_of_fieldOr (Settings.fieldOr_seedOf _ ▸ isOf.seed) (fills _ _)
  case source => exact chosen_source isOf accepted
  case count =>
    rw [← held_eq_value accepted.countGiven]
    exact chosen_of_fieldOr_id isOf.count rfl
  case format =>
    rw [← held_eq_value accepted.format]
    exact chosen_of_fieldOr_id (Settings.either_eq_or _ _ _ ▸ isOf.format) rfl
  case output =>
    have based := isOf.output
    rw [Settings.either_eq_or, Settings.fieldOr_outputPath] at based
    rw [← held_output f.output]
    refine chosen_of_fieldOr based ?_
    rw [Flags.over, fills]
    cases f.output <;> rfl
  case samples =>
    rw [← held_eq_value accepted.samplesGiven]
    exact chosen_of_fieldOr_id (Settings.either_eq_or _ _ _ ▸ isOf.samples) rfl
  case alpha => exact chosen_of_fieldOr_id isOf.alpha rfl
  case extra => exact isOf.extra

end Flags

/-- Settings are built exactly if the mapping makes settings and the options admit them, and then every field is
    chosen by itself: by its option, or else by the mapping, or else as the standard has it. Of two runs on one
    mapping the fields are the same whose options are. The words of `generate` set neither the number of samples
    nor the level of the tests, and those of `stats` neither a number of words nor a format or path. -/
theorem settings_precedence (f : Flags) (mapping : Option (List (Text × Value))) :
    ((∃ s n, f.built mapping = .ok (s, n)) ↔
      ∃ base, baseSettings mapping = .ok base ∧ f.Admits (mapping.getD []) base) ∧
    (∀ s n, f.built mapping = .ok (s, n) → f.Chooses (mapping.getD []) s n ∧
      ∀ g t m, g.built mapping = .ok (t, m) → f.Agrees g s t n m) ∧
    (∀ words, parse words = .ok (.command (.generate f)) → f.OfGenerate) ∧
    ∀ words, parse words = .ok (.command (.stats f)) → f.OfStats := by
  refine ⟨Flags.exists_built_iff, fun s n built => ?_, fun _ => ofGenerate_of_parse, fun _ => ofStats_of_parse⟩
  have chooses := Flags.chooses_of_built built
  exact ⟨chooses, fun g t m other => chooses.agrees (Flags.chooses_of_built other)⟩

/-- An option repairs a source of the mapping that is none, but no number of words that is negative. -/
example : ({ Flags.none with source := some (.value .os) }.built (some [("source", .text "dice")])).isOk = true ∧
    ({ Flags.none with count := some (.value 0) }.built (some [("count", .int (-1))])).isOk = false := by
  decide

/-- An emptied format is refused although the mapping makes settings, the source is known and the numbers lie in
    their ranges. -/
theorem emptied_format_refused :
    ∃ f, parse ["generate", "--seed", "1", "--count", "1", "--format=--"] = .ok (.command (.generate f)) ∧
      baseSettings none = .ok Settings.standard ∧
      Text.normal (f.sourceText []) = Text.ofString SourceName.auto.text ∧
      inEffect f.count Settings.standard.count = .value 1 ∧
      inEffect f.samples Settings.standard.samples = .value 65536 ∧
      f.built none = .error (.value (.unknownFormat "[]")) :=
  ⟨_, rfl, rfl, rfl, rfl, rfl, rfl⟩

end CommandLine

end SeedStream
