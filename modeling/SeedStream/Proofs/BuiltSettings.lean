import SeedStream.CommandLine.Machine
import SeedStream.Proofs.Results

/-!
# Settings that are built

When the options of a command line and a mapping make settings (`Flags.built_eq_ok_iff`): the mapping must make
settings by itself, and what the options leave or put in their place must be a source, a format, a number of words
that is not negative and a number of samples that is positive. A run has a generator to make of them, which takes no
emptied seed (`Flags.settings_eq_ok_iff`).
-/

namespace SeedStream

namespace Settings

/-- A number that lies outside its range is refused. -/
theorem range_eq_ok_iff {outside : Prop} [Decidable outside] (i : Int) (fault : ValueFault) :
    (if outside then telling i fault else .ok ()) = .ok () ↔ ¬ outside := by
  by_cases out : outside
  · rw [if_pos out]
    exact iff_of_false nofun fun inside => inside out
  · rw [if_neg out]
    exact iff_of_true rfl out

theorem checkCount_eq_ok_iff {count : Int} : checkCount count = .ok () ↔ 0 ≤ count :=
  (range_eq_ok_iff count _).trans Int.not_lt

theorem checkSamples_eq_ok_iff {samples : Int} : checkSamples samples = .ok () ↔ 0 < samples :=
  (range_eq_ok_iff samples _).trans Int.not_le

/-- The settings are those of a mapping: every field is converted, and the two numbers lie in their ranges. -/
structure IsOf (fields : List (Text × Value)) (s : Settings) : Prop where
  seed : fieldOr none seedOf (Value.field? "seed" fields) = .ok s.seed
  source : fieldOr standard.source sourceText (Value.field? "source" fields) = .ok s.source
  count : fieldOr standard.count Value.toInteger (Value.field? "count" fields) = .ok s.count
  format : fieldOr standard.format Format.ofValue (either "outputFormat" "output_format" fields) = .ok s.format
  output : fieldOr none outputPath (either "outputPath" "output_path" fields) = .ok s.output
  samples : fieldOr standard.samples Value.toInteger (either "statsSamples" "stats_samples" fields) = .ok s.samples
  alpha : fieldOr standard.alpha Value.toReal (Value.field? "alpha" fields) = .ok s.alpha
  countRange : 0 ≤ s.count
  samplesRange : 0 < s.samples
  extra : s.extra = fields

theorem ofFields_eq_ok_iff {fields : List (Text × Value)} {s : Settings} : ofFields fields = .ok s ↔ IsOf fields s := by
  rw [ofFields]
  constructor
  · intro made
    obtain ⟨_, seed, made⟩ := bind_eq_ok_iff.mp made
    obtain ⟨_, source, made⟩ := bind_eq_ok_iff.mp made
    obtain ⟨_, count, made⟩ := bind_eq_ok_iff.mp made
    obtain ⟨_, format, made⟩ := bind_eq_ok_iff.mp made
    obtain ⟨_, output, made⟩ := bind_eq_ok_iff.mp made
    obtain ⟨_, samples, made⟩ := bind_eq_ok_iff.mp made
    obtain ⟨_, alpha, made⟩ := bind_eq_ok_iff.mp made
    obtain ⟨⟨⟩, countRange, made⟩ := bind_eq_ok_iff.mp made
    obtain ⟨⟨⟩, samplesRange, made⟩ := bind_eq_ok_iff.mp made
    cases made
    exact ⟨seed, source, count, format, output, samples, alpha, checkCount_eq_ok_iff.mp countRange,
      checkSamples_eq_ok_iff.mp samplesRange, rfl⟩
  · rintro ⟨seed, source, count, format, output, samples, alpha, countRange, samplesRange, rfl⟩
    rw [seed, ok_bind, source, ok_bind, count, ok_bind, format, ok_bind, output, ok_bind, samples, ok_bind, alpha,
      ok_bind, checkCount_eq_ok_iff.mpr countRange, ok_bind, checkSamples_eq_ok_iff.mpr samplesRange, ok_bind]
    rfl

end Settings

namespace CommandLine

/-- Without a mapping the settings are those of an empty one. -/
theorem baseSettings_eq (mapping : Option (List (Text × Value))) :
    baseSettings mapping = Settings.ofFields (mapping.getD []) := by
  cases mapping with
  | none => rfl
  | some fields => rfl

theorem checkGiven_eq_ok_iff {β : Type} {given : Option (Given β)} {e : Failure} :
    checkGiven given e = .ok () ↔ given ≠ some .emptied := by
  cases given with
  | none => exact iff_of_true rfl nofun
  | some g =>
    cases g with
    | value b => exact iff_of_true rfl nofun
    | emptied => exact iff_of_false nofun fun other => other rfl

theorem ofValue_text_eq_ok_iff {t : Text} {n : SourceName} :
    SourceName.ofValue (.text t) = .ok n ↔ SourceName.parse? t = some n := by
  rw [SourceName.ofValue, Value.plain]
  cases SourceName.parse? t with
  | none => exact iff_of_false nofun nofun
  | some found => exact ⟨fun same => congrArg some (Except.ok.inj same), fun same => congrArg Except.ok (Option.some.inj same)⟩

namespace Flags

/-- The settings make sense with the options that were given, and name the source. -/
structure Accepts (f : Flags) (s : Settings) (n : SourceName) : Prop where
  source : f.source ≠ some .emptied
  name : SourceName.parse? s.source = some n
  format : f.format ≠ some .emptied
  countGiven : f.count ≠ some .emptied
  count : 0 ≤ s.count
  samplesGiven : f.samples ≠ some .emptied
  samples : 0 < s.samples

theorem sourceOf_eq_ok_iff {f : Flags} {s : Settings} {n : SourceName} : f.sourceOf s = .ok n ↔ f.Accepts s n := by
  have unit {x : Except Failure Unit} {p : Prop} : (∃ u, x = .ok u ∧ p) ↔ x = .ok () ∧ p :=
    ⟨fun ⟨⟨⟩, both⟩ => both, fun both => ⟨(), both⟩⟩
  simp only [sourceOf, bind_eq_ok_iff, unit, checkGiven_eq_ok_iff, ofValue_text_eq_ok_iff, Settings.checkCount_eq_ok_iff,
    Settings.checkSamples_eq_ok_iff, pure, Except.pure, Except.ok.injEq]
  constructor
  · rintro ⟨source, _, name, format, countGiven, count, samplesGiven, samples, rfl⟩
    exact ⟨source, name, format, countGiven, count, samplesGiven, samples⟩
  · rintro ⟨source, name, format, countGiven, count, samplesGiven, samples⟩
    exact ⟨source, n, name, format, countGiven, count, samplesGiven, samples, rfl⟩

variable {f : Flags} {mapping : Option (List (Text × Value))} {s : Settings} {n : SourceName}

theorem built_eq_ok_iff : f.built mapping = .ok (s, n) ↔
    ∃ b, baseSettings mapping = .ok b ∧ s = f.over b ∧ f.Accepts s n := by
  rw [built, bind_eq_ok_iff]
  refine exists_congr fun b => and_congr_right fun _ => ?_
  constructor
  · intro made
    obtain ⟨_, accepted, same⟩ := bind_eq_ok_iff.mp made
    cases same
    exact ⟨rfl, sourceOf_eq_ok_iff.mp accepted⟩
  · rintro ⟨rfl, accepted⟩
    exact bind_eq_ok_iff.mpr ⟨n, sourceOf_eq_ok_iff.mpr accepted, rfl⟩

theorem settings_eq_ok_iff {r : Settings × SourceName} :
    f.settings mapping = .ok r ↔ f.built mapping = .ok r ∧ f.seed ≠ some .emptied := by
  rw [settings_eq, bind_eq_ok_iff]
  constructor
  · rintro ⟨made, built, kept⟩
    obtain ⟨⟨⟩, given, same⟩ := bind_eq_ok_iff.mp kept
    cases same
    exact ⟨built, checkGiven_eq_ok_iff.mp given⟩
  · rintro ⟨built, given⟩
    exact ⟨r, built, bind_eq_ok_iff.mpr ⟨(), checkGiven_eq_ok_iff.mpr given, rfl⟩⟩

end Flags

end CommandLine

end SeedStream
