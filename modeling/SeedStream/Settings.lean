import SeedStream.Battery.Report
import SeedStream.Manifest
import SeedStream.Output.Format
import SeedStream.Path

/-!
# Settings

What a run is set up with: a seed, a source, how many words to write and where, and how to test a
sample. Settings come from a mapping, in which some names have two spellings, the first of which
counts before the second. A seed of null and an empty path count as absent.
-/

namespace SeedStream

/-- What a run is set up with. -/
structure Settings where
  seed : Option Int
  /-- The name of the source, in small letters and without blanks around it. -/
  source : Text
  count : Int
  format : Format
  output : Option Path
  samples : Int
  alpha : Float
  /-- The mapping that the settings come from. -/
  extra : List (Text × Value)

namespace Settings

/-- The settings of a run that is told nothing. -/
def standard : Settings :=
  ⟨none, "auto", 16, .hex, none, 65536, Battery.defaultAlpha, []⟩

/-- The field under the first spelling or else under the second. -/
def either (first second : Text) (fields : List (Text × Value)) : Option Value :=
  match Value.field? first fields with
  | some v => some v
  | none => Value.field? second fields

/-- The path that a value gives, if it gives one. -/
def outputPath (v : Value) : Except Failure (Option Path) :=
  if !v.isGiven then .ok none
  else
    match v with
    | .text t => .ok (some (Path.ofText t))
    | _ => .error (.kind (.path v.kind))

/-- A fault that tells a number, or that the number is too long to be told. -/
def telling (i : Int) (fault : ValueFault) : Except Failure Unit :=
  .error (.value (if Integer.isWritable i then fault else .longNumeral))

/-- There are no fewer words to write than none. -/
def checkCount (count : Int) : Except Failure Unit :=
  if count < 0 then telling count (.negativeCount (Numeral.ofInt count)) else .ok ()

/-- There is a word to test at least. -/
def checkSamples (samples : Int) : Except Failure Unit :=
  if samples ≤ 0 then telling samples (.sampleCount samples) else .ok ()

/-- A field made what the settings need, or what stands for one that is absent. -/
def fieldOr (default : α) (convert : Value → Except Failure α) (v : Option Value) : Except Failure α :=
  match v with
  | none => .ok default
  | some v => convert v

/-- A seed, which may be null. -/
def seedOf (v : Value) : Except Failure (Option Int) :=
  match v with
  | .null => .ok none
  | _ => v.toInteger.map some

/-- A source name in small letters and without blanks around it. -/
def sourceText (v : Value) : Except Failure Text :=
  v.plainText.map fun t => Text.lower (Text.strip t)

/-- The settings of a mapping. -/
def ofFields (fields : List (Text × Value)) : Except Failure Settings := do
  let seed ← fieldOr none seedOf (Value.field? "seed" fields)
  let source ← fieldOr standard.source sourceText (Value.field? "source" fields)
  let count ← fieldOr standard.count Value.toInteger (Value.field? "count" fields)
  let format ← fieldOr standard.format Format.ofValue (either "outputFormat" "output_format" fields)
  let output ← fieldOr none outputPath (either "outputPath" "output_path" fields)
  let samples ← fieldOr standard.samples Value.toInteger (either "statsSamples" "stats_samples" fields)
  let alpha ← fieldOr standard.alpha Value.toReal (Value.field? "alpha" fields)
  checkCount count
  checkSamples samples
  return ⟨seed, source, count, format, output, samples, alpha, fields⟩

/-- The settings of a value, which should be a mapping. -/
def ofValue (v : Value) : Except Failure Settings :=
  match v with
  | .object fields => ofFields fields
  | _ => do
    if ← Manifest.hasName "seed" v then
      match v with
      | .text _ => .error (.kind .textField)
      | _ => .error (.kind .listField)
    else .error (.noFields v.kind)

end Settings

end SeedStream
