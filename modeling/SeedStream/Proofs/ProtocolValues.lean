import SeedStream.CommandLine.Run
import SeedStream.Proofs.BuiltSettings

/-!
# Values that settings neither take nor refuse

Refused data end a run of `generate` or `stats` as a fault of usage; other failures are handed on. Most values of a
protocol are taken or refused, but some are neither: null and an infinite number where an integer is wanted, null and
an integer that no double holds where a double is wanted, and whatever is given as a path without being a text. The
settings fail so exactly if such a value is met before a refused one (`breaks_ofFields_iff`), or if an emptied option
stands for a number (`breaks_sourceOf_iff`).
-/

namespace SeedStream

/-! ## Failures that refuse nothing -/

/-- The step fails, and not because it refuses data. -/
def Breaks {α : Type} (x : Except Failure α) : Prop :=
  ∃ e, x = .error e ∧ e.isRefusedData = false

section

variable {α β : Type} {x : Except Failure α} {f : α → Except Failure β}

theorem not_breaks_ok (a : α) : ¬ Breaks (.ok a : Except Failure α) := by
  rintro ⟨e, same, -⟩
  cases same

theorem breaks_error_iff (e : Failure) : Breaks (.error e : Except Failure α) ↔ e.isRefusedData = false := by
  constructor
  · rintro ⟨_, ⟨⟩, other⟩
    exact other
  · exact fun other => ⟨e, rfl, other⟩

theorem not_breaks_refusal {e : Failure} (refused : e.isRefusedData = true) : ¬ Breaks (.error e : Except Failure α) := by
  rw [breaks_error_iff, refused]
  exact Bool.noConfusion

/-- A sequence of steps breaks where one of them does that the steps before lead to. -/
theorem breaks_bind_iff : Breaks (x >>= f) ↔ Breaks x ∨ ∃ a, x = .ok a ∧ Breaks (f a) := by
  cases x with
  | error e =>
    change Breaks (.error e) ↔ _
    rw [breaks_error_iff, breaks_error_iff]
    simp
  | ok a =>
    change Breaks (f a) ↔ _
    simp [not_breaks_ok]

theorem breaks_then_iff {x : Except Failure Unit} {y : Except Failure β} :
    Breaks (x >>= fun _ => y) ↔ Breaks x ∨ x = .ok () ∧ Breaks y := by
  rw [breaks_bind_iff]
  refine or_congr_right ⟨?_, fun both => ⟨(), both⟩⟩
  rintro ⟨⟨⟩, both⟩
  exact both

theorem breaks_map_iff {g : α → β} : Breaks (x.map g) ↔ Breaks x := by
  cases x with
  | error e =>
    change Breaks (.error e) ↔ _
    rw [breaks_error_iff, breaks_error_iff]
  | ok a => exact iff_of_false (not_breaks_ok _) (not_breaks_ok _)

end

/-! ## Values that cannot be converted -/

namespace Value

/-- The number is infinite. -/
def isInfinite (x : Float) : Bool :=
  match Double.parts x with
  | .infinite _ => true
  | _ => false

/-- The value is neither made an integer nor refused as one. -/
def isUnfitInteger : Value → Bool
  | .bool _ | .int _ | .text _ => false
  | .real x => isInfinite x
  | _ => true

/-- The value is neither made a double nor refused as one. -/
def isUnfitReal : Value → Bool
  | .bool _ | .real _ | .text _ => false
  | .int i => (Double.ofInt? i).isNone
  | _ => true

/-- The value is neither made a path nor taken for none. -/
def isUnfitPath : Value → Bool
  | .text _ => false
  | v => v.isGiven

theorem not_breaks_integerOfText (spelling : Integer.Spelling) (t : Text) : ¬ Breaks (integerOfText spelling t) := by
  rw [integerOfText]
  split
  · exact not_breaks_ok _
  · exact not_breaks_refusal rfl
  · exact not_breaks_refusal rfl

theorem breaks_integerOfReal_iff (x : Float) : Breaks (integerOfReal x) ↔ isInfinite x := by
  rw [integerOfReal, isInfinite]
  cases Double.parts x with
  | finite negative m q => exact iff_of_false (not_breaks_ok _) Bool.noConfusion
  | infinite negative => exact iff_of_true ((breaks_error_iff _).mpr rfl) rfl
  | nan => exact iff_of_false (not_breaks_refusal rfl) Bool.noConfusion

theorem breaks_toInteger_iff (v : Value) : Breaks v.toInteger ↔ v.isUnfitInteger := by
  cases v with
  | text t => exact iff_of_false (not_breaks_integerOfText .plain t) Bool.noConfusion
  | real x => exact breaks_integerOfReal_iff x
  | bool | int => exact iff_of_false (not_breaks_ok _) Bool.noConfusion
  | _ => exact iff_of_true ((breaks_error_iff _).mpr rfl) rfl

theorem breaks_toReal_iff (v : Value) : Breaks v.toReal ↔ v.isUnfitReal := by
  cases v with
  | text t =>
    refine iff_of_false ?_ Bool.noConfusion
    rw [toReal]
    split
    · exact not_breaks_ok _
    · exact not_breaks_refusal rfl
  | int i =>
    rw [toReal, isUnfitReal]
    cases Double.ofInt? i with
    | none => exact iff_of_true ((breaks_error_iff _).mpr rfl) rfl
    | some x => exact iff_of_false (not_breaks_ok _) Bool.noConfusion
  | bool | real => exact iff_of_false (not_breaks_ok _) Bool.noConfusion
  | _ => exact iff_of_true ((breaks_error_iff _).mpr rfl) rfl

theorem not_breaks_plainText (v : Value) : ¬ Breaks v.plainText := by
  rw [plainText]
  split
  · exact not_breaks_ok _
  · exact not_breaks_refusal rfl

end Value

/-! ## Fields -/

namespace Settings

/-- A field of a mapping: where it stands, which values it takes, and which it neither takes nor refuses. -/
structure Field where
  value : List (Text × Value) → Option Value
  takes : Value → Bool
  isUnfit : Value → Bool

namespace Field

def seed : Field where
  value := Value.field? "seed"
  takes v := (seedOf v).isOk
  isUnfit v := match v with
    | .null => false
    | _ => v.isUnfitInteger

def source : Field where
  value := Value.field? "source"
  takes v := (sourceText v).isOk
  isUnfit _ := false

def count : Field where
  value := Value.field? "count"
  takes v := v.toInteger.isOk
  isUnfit := Value.isUnfitInteger

def format : Field where
  value := either "outputFormat" "output_format"
  takes v := (Format.ofValue v).isOk
  isUnfit _ := false

def output : Field where
  value := either "outputPath" "output_path"
  takes v := (outputPath v).isOk
  isUnfit := Value.isUnfitPath

def samples : Field where
  value := either "statsSamples" "stats_samples"
  takes v := v.toInteger.isOk
  isUnfit := Value.isUnfitInteger

def alpha : Field where
  value := Value.field? "alpha"
  takes v := v.toReal.isOk
  isUnfit := Value.isUnfitReal

/-- The fields in the order in which they are converted. -/
def all : List Field :=
  [seed, source, count, format, output, samples, alpha]

end Field

/-- Of the fields of a mapping, one has an unfit value, and those before it are absent or taken. -/
def meetsUnfit (mapping : List (Text × Value)) : List Field → Bool
  | [] => false
  | field :: rest =>
    match field.value mapping with
    | none => meetsUnfit mapping rest
    | some v => field.isUnfit v || (field.takes v && meetsUnfit mapping rest)

variable {α β : Type} {mapping : List (Text × Value)}

/-- A field is converted, and what follows does not depend on what it gave. -/
theorem breaks_field_iff (field : Field) {rest : List Field} {default : α} {convert : Value → Except Failure α}
    {next : α → Except Failure β} (takes : ∀ v, field.takes v = (convert v).isOk)
    (unfit : ∀ v, Breaks (convert v) ↔ field.isUnfit v) (others : ∀ a, Breaks (next a) ↔ meetsUnfit mapping rest) :
    Breaks (fieldOr default convert (field.value mapping) >>= next) ↔ meetsUnfit mapping (field :: rest) := by
  rw [meetsUnfit]
  cases field.value mapping with
  | none => exact others default
  | some v =>
    dsimp only
    rw [Bool.or_eq_true, Bool.and_eq_true, ← unfit, takes, breaks_bind_iff]
    refine or_congr_right ?_
    change (∃ a, convert v = .ok a ∧ _) ↔ _
    cases convert v with
    | error e => simp [Except.isOk, Except.toBool]
    | ok a => simp [Except.isOk, Except.toBool, others]

theorem breaks_seedOf_iff (v : Value) : Breaks (seedOf v) ↔ Field.seed.isUnfit v := by
  by_cases absent : v = .null
  · subst absent
    exact iff_of_false (not_breaks_ok _) Bool.noConfusion
  · have same : seedOf v = v.toInteger.map some ∧ Field.seed.isUnfit v = v.isUnfitInteger := by
      cases v with
      | null => exact absurd rfl absent
      | _ => exact ⟨rfl, rfl⟩
    rw [same.1, same.2, breaks_map_iff, Value.breaks_toInteger_iff]

theorem not_breaks_sourceText (v : Value) : ¬ Breaks (sourceText v) :=
  mt breaks_map_iff.mp v.not_breaks_plainText

theorem not_breaks_format (v : Value) : ¬ Breaks (Format.ofValue v) := by
  rw [Format.ofValue, breaks_bind_iff]
  rintro (shown | ⟨t, -, unknown⟩)
  · exact v.not_breaks_plainText shown
  · split at unknown
    · exact not_breaks_ok _ unknown
    · exact not_breaks_refusal rfl unknown

theorem breaks_outputPath_iff (v : Value) : Breaks (outputPath v) ↔ v.isUnfitPath := by
  unfold outputPath
  by_cases text : ∃ t, v = .text t
  · obtain ⟨t, rfl⟩ := text
    refine iff_of_false ?_ Bool.noConfusion
    split <;> exact not_breaks_ok _
  · have same : v.isUnfitPath = v.isGiven := by
      cases v with
      | text t => exact absurd ⟨t, rfl⟩ text
      | _ => rfl
    rw [same]
    cases v.isGiven with
    | false => exact iff_of_false (not_breaks_ok _) Bool.noConfusion
    | true =>
      rw [if_neg (by decide)]
      split
      · exact absurd ⟨_, rfl⟩ text
      · exact iff_of_true ((breaks_error_iff _).mpr rfl) rfl

section

variable {outside : Prop} [Decidable outside]

/-- A number that lies outside its range is refused and does not break anything. -/
theorem not_breaks_range (i : Int) (fault : ValueFault) : ¬ Breaks (if outside then telling i fault else .ok ()) := by
  by_cases out : outside
  · rw [if_pos out]
    exact not_breaks_refusal rfl
  · rw [if_neg out]
    exact not_breaks_ok _

end

theorem not_breaks_checkCount (count : Int) : ¬ Breaks (checkCount count) :=
  not_breaks_range count _

theorem not_breaks_checkSamples (samples : Int) : ¬ Breaks (checkSamples samples) :=
  not_breaks_range samples _

/-- The settings of a mapping break at the first unfit value, if nothing was refused before it. -/
theorem breaks_ofFields_iff (mapping : List (Text × Value)) : Breaks (ofFields mapping) ↔ meetsUnfit mapping Field.all := by
  have refuses {γ : Type} {convert : Value → Except Failure γ} (never : ∀ v, ¬ Breaks (convert v)) (v : Value) :
      Breaks (convert v) ↔ false = true := iff_of_false (never v) Bool.noConfusion
  refine breaks_field_iff .seed (fun _ => rfl) breaks_seedOf_iff fun seed => ?_
  refine breaks_field_iff .source (fun _ => rfl) (refuses not_breaks_sourceText) fun source => ?_
  refine breaks_field_iff .count (fun _ => rfl) Value.breaks_toInteger_iff fun count => ?_
  refine breaks_field_iff .format (fun _ => rfl) (refuses not_breaks_format) fun format => ?_
  refine breaks_field_iff .output (fun _ => rfl) breaks_outputPath_iff fun output => ?_
  refine breaks_field_iff .samples (fun _ => rfl) Value.breaks_toInteger_iff fun samples => ?_
  refine breaks_field_iff .alpha (fun _ => rfl) Value.breaks_toReal_iff fun alpha => ?_
  -- What is left to check is only refused.
  refine iff_of_false ?_ Bool.noConfusion
  rw [breaks_bind_iff, breaks_bind_iff]
  rintro (short | ⟨_, -, few | ⟨_, -, made⟩⟩)
  · exact not_breaks_checkCount count short
  · exact not_breaks_checkSamples samples few
  · exact not_breaks_ok _ made

end Settings

/-! ## Documents of one field -/

namespace Yaml

variable {line : Line} {key node : Node} {text : List Char}

theorem block_of_field (fuel least : Nat) (field : key? line = some (key, text)) (noItem : item? line.text = none)
    (more : isEnd text = false) (value : inlineNode (line.indent + 1) line (skipSpaces text) [] = some (node, [])) :
    block (fuel + 3) least line [] = some (.mapping (line.placeOf line.text) [(key, node)], []) := by
  rw [block, noItem, field, blockFields]
  simp only [Option.isSome_none, Bool.false_eq_true, if_false, Option.isSome_some, if_true, Nat.lt_irrefl, field, more,
    value, bind, Option.bind]
  rw [blockFields]
  rfl

/-- A document of one line with a field is a mapping of that field. -/
theorem parse_of_field {cs : List Char} (proper : cs.head? ≠ some (Char.ofNat 0xfeff))
    (single : documentLines (significantLines cs) = [line]) (field : key? line = some (key, text))
    (noItem : item? line.text = none) (more : isEnd text = false)
    (value : inlineNode (line.indent + 1) line (skipSpaces text) [] = some (node, [])) :
    parse cs = (Node.mapping (line.placeOf line.text) [(key, node)]).valueWithin (cs.length + 1) := by
  have whole : (if cs.head? == some (Char.ofNat 0xfeff) then cs.drop 1 else cs) = cs := if_neg (by simpa using proper)
  rw [parse, whole]
  simp only [single]
  rw [block_of_field (2 * cs.length + 1) 0 field noItem more value]

end Yaml

namespace CommandLine

/-! ## Options -/

/-- An emptied option that should be a number is met, and nothing is refused before it. -/
def Flags.MeetsEmptied (f : Flags) (s : Settings) : Prop :=
  f.source ≠ some .emptied ∧ (SourceName.parse? s.source).isSome ∧ f.format ≠ some .emptied ∧
    (f.count = some .emptied ∨ 0 ≤ s.count ∧ (f.samples = some .emptied ∨ 0 < s.samples ∧ f.seed = some .emptied))

theorem breaks_checkGiven_iff {β : Type} (given : Option (Given β)) (e : Failure) :
    Breaks (checkGiven given e) ↔ given = some .emptied ∧ e.isRefusedData = false := by
  cases given with
  | none => exact iff_of_false (not_breaks_ok _) nofun
  | some g =>
    cases g with
    | value b => exact iff_of_false (not_breaks_ok _) nofun
    | emptied => exact (breaks_error_iff e).trans (and_iff_right rfl).symm

theorem not_breaks_ofValue (v : Value) : ¬ Breaks (SourceName.ofValue v) := by
  rw [SourceName.ofValue]
  split
  · exact not_breaks_ok _
  · exact not_breaks_refusal rfl

theorem breaks_sourceOf_iff (f : Flags) (s : Settings) :
    Breaks (f.sourceOf s) ↔ f.source ≠ some .emptied ∧ (SourceName.parse? s.source).isSome ∧ f.format ≠ some .emptied ∧
      (f.count = some .emptied ∨ 0 ≤ s.count ∧ f.samples = some .emptied) := by
  have refuses (fault : ValueFault) : (Failure.value fault).isRefusedData = true := rfl
  have breaks (fault : KindFault) : (Failure.kind fault).isRefusedData = false := rfl
  have done (n : SourceName) : ¬ Breaks (pure n) := not_breaks_ok n
  rw [Flags.sourceOf, breaks_then_iff, breaks_bind_iff, Option.isSome_iff_exists]
  simp only [breaks_then_iff, breaks_checkGiven_iff, checkGiven_eq_ok_iff, refuses, breaks, not_breaks_ofValue,
    ofValue_text_eq_ok_iff, Settings.not_breaks_checkCount, Settings.checkCount_eq_ok_iff,
    Settings.not_breaks_checkSamples, Settings.checkSamples_eq_ok_iff, done, Bool.true_eq_false, and_false, and_true,
    or_false, false_or, exists_and_right]
  by_cases count : f.count = some .emptied
  · simp [count]
  · simp [count]

/-- The seed is looked at when the settings are found to make sense. -/
theorem meetsEmptied_iff (f : Flags) (s : Settings) :
    f.MeetsEmptied s ↔ Breaks (f.sourceOf s) ∨ (∃ n, f.sourceOf s = .ok n) ∧ f.seed = some .emptied := by
  rw [breaks_sourceOf_iff]
  constructor
  · rintro ⟨source, name, format, emptied⟩
    by_cases count : f.count = some .emptied
    · exact .inl ⟨source, name, format, .inl count⟩
    obtain ⟨enough, later⟩ := emptied.resolve_left count
    by_cases samples : f.samples = some .emptied
    · exact .inl ⟨source, name, format, .inr ⟨enough, samples⟩⟩
    obtain ⟨positive, seed⟩ := later.resolve_left samples
    obtain ⟨n, name⟩ := Option.isSome_iff_exists.mp name
    exact .inr ⟨⟨n, Flags.sourceOf_eq_ok_iff.mpr ⟨source, name, format, count, enough, samples, positive⟩⟩, seed⟩
  · rintro (⟨source, name, format, emptied⟩ | ⟨⟨n, found⟩, seed⟩)
    · exact ⟨source, name, format, emptied.imp_right fun ⟨enough, samples⟩ => ⟨enough, .inl samples⟩⟩
    · have accepted := Flags.sourceOf_eq_ok_iff.mp found
      exact ⟨accepted.source, Option.isSome_iff_exists.mpr ⟨n, accepted.name⟩, accepted.format,
        .inr ⟨accepted.count, .inr ⟨accepted.samples, seed⟩⟩⟩

/-! ## Runs -/

/-- The settings of a mapping and options are neither found nor refused. -/
def Flags.IsUnfit (f : Flags) (mapping : List (Text × Value)) : Prop :=
  Settings.meetsUnfit mapping Settings.Field.all ∨ ∃ s, Settings.ofFields mapping = .ok s ∧ f.MeetsEmptied (f.over s)

theorem breaks_built_iff (f : Flags) (mapping : Option (List (Text × Value))) :
    Breaks (f.built mapping) ↔
      Breaks (baseSettings mapping) ∨ ∃ b, baseSettings mapping = .ok b ∧ Breaks (f.sourceOf (f.over b)) := by
  rw [Flags.built, breaks_bind_iff]
  exact or_congr_right (exists_congr fun b => and_congr_right fun _ => breaks_map_iff)

theorem breaks_settings_iff (f : Flags) (mapping : Option (List (Text × Value))) :
    Breaks (f.settings mapping) ↔ f.IsUnfit (mapping.getD []) := by
  have base := baseSettings_eq mapping
  have seed (made : Settings × SourceName) :
      Breaks (checkGiven f.seed (.kind (.index .list)) >>= fun _ => pure made) ↔ f.seed = some .emptied := by
    have done : ¬ Breaks (pure made) := not_breaks_ok made
    rw [breaks_then_iff, breaks_checkGiven_iff, or_iff_left fun both => done both.2]
    exact and_iff_left rfl
  rw [Flags.settings_eq, breaks_bind_iff, breaks_built_iff, base, Settings.breaks_ofFields_iff, Flags.IsUnfit, or_assoc]
  simp only [meetsEmptied_iff, seed]
  refine or_congr_right ?_
  constructor
  · rintro (⟨b, made, broken⟩ | ⟨⟨s, n⟩, built, emptied⟩)
    · exact ⟨b, made, .inl broken⟩
    · obtain ⟨b, made, rfl, accepted⟩ := Flags.built_eq_ok_iff.mp built
      exact ⟨b, base ▸ made, .inr ⟨⟨n, Flags.sourceOf_eq_ok_iff.mpr accepted⟩, emptied⟩⟩
  · rintro ⟨b, made, broken | ⟨⟨n, found⟩, emptied⟩⟩
    · exact .inl ⟨b, made, broken⟩
    · have accepted := Flags.sourceOf_eq_ok_iff.mp found
      exact .inr ⟨(f.over b, n), Flags.built_eq_ok_iff.mpr ⟨b, base ▸ made, rfl, accepted⟩, emptied⟩

variable {m : Machine} {words : List Text} {c : Command} {f : Flags} {mapping : Option (List (Text × Value))}

theorem run_of_settingsOf_error [Memory] (parsed : parse words = .ok (.command c))
    (takes : c = .generate f ∨ c = .stats f) {e : Failure} (failed : settingsOf m f = .error e) : run m words = .told m [] (endingOf e) := by
  rw [run, parsed]
  rcases takes with rfl | rfl
  · change runGenerate m f = _
    rw [runGenerate, failed]
  · change runStats m f = _
    rw [runStats, failed]

theorem settingsOf_of_protocol (read : f.protocol.mapM m.protocol = .ok mapping) : settingsOf m f = f.settings mapping := by
  rw [settingsOf, read]
  rfl

/-- The settings of `generate` and `stats` are found or the run ends as a fault of usage, unless an unfit value of the
    protocol or an emptied option is met first; then the run fails otherwise. -/
theorem settings_end_in_usage [Memory] (parsed : parse words = .ok (.command c))
    (takes : c = .generate f ∨ c = .stats f) (read : f.protocol.mapM m.protocol = .ok mapping) :
    (¬ f.IsUnfit (mapping.getD []) →
      (∃ s source, settingsOf m f = .ok (s, source)) ∨
        ∃ e, settingsOf m f = .error e ∧ run m words = .told m [] (.usage ⟨none, .refused e⟩)) ∧
    (f.IsUnfit (mapping.getD []) → ∃ e, settingsOf m f = .error e ∧ run m words = .told m [] (.failed e)) := by
  rw [← breaks_settings_iff, ← settingsOf_of_protocol read]
  constructor
  · intro kept
    cases found : settingsOf m f with
    | ok both => exact .inl ⟨both.1, both.2, rfl⟩
    | error e =>
      rw [found, breaks_error_iff, Bool.not_eq_false] at kept
      refine .inr ⟨e, rfl, ?_⟩
      rw [run_of_settingsOf_error parsed takes found, endingOf, if_pos kept]
  · rintro ⟨e, failed, other⟩
    refine ⟨e, failed, ?_⟩
    rw [run_of_settingsOf_error parsed takes failed, endingOf, if_neg (by rw [other]; decide)]

/-! ## Protocols of one field -/

theorem Machine.protocol_of_parse {p absolute : Path} {bytes : List UInt8} {cs : List Char}
    {fields : List (Text × Value)} (resolved : m.resolve p = .ok absolute) (installed : m.has .protocols = true)
    (held : m.tree.read absolute = .ok bytes) (decoded : Text.decodeUtf8 bytes = .ok cs)
    (parsed : Yaml.parse (Text.unifyNewlines cs) = .ok (.object fields)) : m.protocol p = .ok fields := by
  have value : m.protocolValue absolute = .ok (.object fields) := by
    rw [Machine.protocolValue, installed, held]
    simp only [Bool.not_true, Bool.false_eq_true, if_false, decoded, parsed]
  rw [Machine.protocol, resolved]
  simp only [bind, Except.bind, value]

/-- A machine with a protocol. -/
def protocolMachine (protocol : String) : Machine :=
  ⟨Environment.fresh (fun k => k) fun _ => .bytes [],
    ⟨Path.ofText "/", [(["p.yaml"], .file (Text.encodeUtf8 protocol.toList))]⟩, []⟩

/-- The options of a command line that names the protocol. -/
def protocolFlags : Flags :=
  { Flags.none with protocol := some (Path.ofText "p.yaml") }

theorem parse_protocolWords : parse ["generate", "--protocol", "p.yaml"] = .ok (.command (.generate protocolFlags)) :=
  rfl

theorem mapping_of_protocol {protocol : String} {fields : List (Text × Value)}
    (decoded : Text.decodeUtf8 (Text.encodeUtf8 protocol.toList) = .ok protocol.toList)
    (parsed : Yaml.parse (Text.unifyNewlines protocol.toList) = .ok (.object fields)) :
    protocolFlags.protocol.mapM (protocolMachine protocol).protocol = .ok (some fields) := by
  have resolved : (protocolMachine protocol).resolve (Path.ofText "p.yaml") = .ok (Path.ofText "/p.yaml") := rfl
  have held (bytes : List UInt8) : FileTree.read ⟨Path.ofText "/", [(["p.yaml"], .file bytes)]⟩ (Path.ofText "/p.yaml") =
      .ok bytes := rfl
  have read : (protocolMachine protocol).protocol (Path.ofText "p.yaml") = .ok fields :=
    Machine.protocol_of_parse resolved rfl (held _) decoded parsed
  change (do return some (← (protocolMachine protocol).protocol (Path.ofText "p.yaml"))) = _
  rw [read]
  rfl

section

attribute [local instance] Memory.standard

/-- A number of words that is refused. -/
theorem settings_end_in_usage_negative :
    protocolFlags.protocol.mapM (protocolMachine "count: -3").protocol = .ok (some [("count", .int (-3))]) ∧
      ∃ e, run (protocolMachine "count: -3") ["generate", "--protocol", "p.yaml"] =
        .told (protocolMachine "count: -3") [] (.usage ⟨none, .refused e⟩) := by
  have parsed : Yaml.parse "count: -3".toList = .ok (.object [("count", .int (-3))]) := by
    rw [Yaml.parse_of_field (by decide) rfl rfl rfl rfl rfl]
    rfl
  have read : protocolFlags.protocol.mapM (protocolMachine "count: -3").protocol = .ok (some [("count", .int (-3))]) :=
    mapping_of_protocol rfl parsed
  obtain ⟨refusal, refused⟩ : ∃ e, Settings.ofFields [("count", .int (-3))] = .error e := ⟨_, rfl⟩
  have fit : ¬ protocolFlags.IsUnfit [("count", .int (-3))] := by
    rintro (unfit | ⟨s, made, -⟩)
    · cases unfit
    · rw [refused] at made
      cases made
  refine ⟨read, ?_⟩
  rcases (settings_end_in_usage parse_protocolWords (.inl rfl) read).1 fit with ⟨s, source, found⟩ | ⟨e, -, ran⟩
  · rw [settingsOf_of_protocol read, Flags.settings, baseSettings, refused] at found
    cases found
  · exact ⟨e, ran⟩

/-- Null as the number of words is not refused: the run fails otherwise. -/
theorem null_count_fails :
    run (protocolMachine "count: ~") ["generate", "--protocol", "p.yaml"] =
      .told (protocolMachine "count: ~") [] (.failed (.kind (.integer .null))) := by
  have parsed : Yaml.parse "count: ~".toList = .ok (.object [("count", .null)]) := by
    rw [Yaml.parse_of_field (by decide) rfl rfl rfl rfl rfl]
    rfl
  have failed : settingsOf (protocolMachine "count: ~") protocolFlags = .error (.kind (.integer .null)) := by
    have read : protocolFlags.protocol.mapM (protocolMachine "count: ~").protocol = .ok (some [("count", .null)]) :=
      mapping_of_protocol rfl parsed
    rw [settingsOf_of_protocol read]
    rfl
  exact run_of_settingsOf_error parse_protocolWords (.inl rfl) failed

end

end CommandLine

end SeedStream
