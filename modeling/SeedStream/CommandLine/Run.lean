import SeedStream.Chart
import SeedStream.CommandLine.Machine
import SeedStream.Digest
import SeedStream.Double.Fixed
import SeedStream.Manifest
import SeedStream.Operation
import SeedStream.Output.Files
import SeedStream.Text.Pieces

/-!
# Runs of the commands

What a command prints, what it leaves in the file tree and how it ends. Refused data end `generate`
and the settings of `stats` as a fault of usage; every other failure ends the run as it is. What was
printed before a failure stays printed. Printing itself does not fail: standard output accepts every
letter, also half of a pair of surrogates that stands for a byte of a name, and where there was room for
the words there is room for their lines.
-/

namespace SeedStream.CommandLine

variable [Memory]

/-- How a run ends. -/
inductive Ending
  | success
  /-- A test or a check has found something. -/
  | unclean
  | help
  | usage (e : UsageError)
  | failed (e : Failure)

/-- What the caller of the program is told, unless a failure is handed on. -/
def Ending.exitCode : Ending → Nat
  | success => 0
  | unclean => 1
  | help => 0
  | usage _ => 2
  | failed _ => 1

/-- What a run did. -/
structure Outcome where
  /-- The lines that were printed. -/
  printed : List Text
  ending : Ending
  tree : FileTree
  /-- The chart that was drawn. -/
  drawing : List DrawStep

namespace Outcome

/-- Print lines and end without a change of the file tree. -/
def told (m : Machine) (printed : List Text) (e : Ending) : Outcome :=
  ⟨printed, e, m.tree, []⟩

end Outcome

/-- How refused data and other failures end a command. -/
def endingOf (e : Failure) : Ending :=
  if e.isRefusedData then .usage ⟨none, .refused e⟩ else .failed e

/-- The generator of a run. -/
def generatorOf (m : Machine) (s : Settings) (source : SourceName) : Generator Native :=
  Generator.make (Native.ofName source m.environment) s.seed

/-- So many words of a generator, if there is room for them. -/
def drawn (g : Generator Native) (count : Int) : Except Failure (List Word) := do
  let n ← Generator.fillCount g.mode (.int count)
  (g.fill n).1

/-! ## Generate -/

/-- Write words to a file and print its path and its digest. -/
def writeWords (m : Machine) (s : Settings) (ws : List Word) (p : Path) : Outcome :=
  match m.resolve p with
  | .error e => .told m [] (endingOf e)
  | .ok p =>
    match Output.write ws p s.format m.tree with
    | (.error e, t) => ⟨[], endingOf e, t, []⟩
    | (.ok written, t) =>
      let pathLine : Text := "output=" ++ written.text
      match Digest.ofFile t written (.int Digest.defaultPiece) with
      | .error e => ⟨[pathLine], endingOf e, t, []⟩
      | .ok digest => ⟨[pathLine, "sha256=" ++ digest], .success, t, []⟩

/-- Print words, which only a text format can do. -/
def printWords (m : Machine) (s : Settings) (ws : List Word) : Outcome :=
  let result :=
    if s.format.isBinary then .error (.value (.formatNeedsOutput s.format.text))
    else Output.lines s.format ws
  match result with
  | .error e => .told m [] (endingOf e)
  | .ok ls => .told m (ls.map fun (l : List Char) => l) .success

/-- Generate words. -/
def runGenerate (m : Machine) (f : Flags) : Outcome :=
  match settingsOf m f with
  | .error e => .told m [] (endingOf e)
  | .ok (s, source) =>
    match drawn (generatorOf m s source) s.count with
    | .error e => .told m [] (endingOf e)
    | .ok ws =>
      match s.output with
      | some p => writeWords m s ws p
      | none => printWords m s ws

/-! ## Stats -/

/-- A truth value as it is printed. -/
def truthText (b : Bool) : String :=
  if b then "True" else "False"

/-- A double as it is printed. -/
def fixedText (places : Nat) (x : Float) : String :=
  String.ofList (Double.fixed places x)

/-- The lines of a battery report. -/
def reportLines (mode : Mode) (r : Battery.Report) : List Text :=
  ["mode=" ++ mode.text,
    "samples=" ++ Numeral.ofNat r.samples,
    "ones_fraction=" ++ fixedText 6 r.onesFraction,
    "monobit_p=" ++ fixedText 6 r.monobit,
    "chi2=" ++ fixedText 3 r.byteStat ++ " chi2_p=" ++ fixedText 6 r.byteProb,
    "max_bit_bias=" ++ fixedText 6 r.maxBias ++ " limit=" ++ fixedText 6 r.biasLimit,
    "passed=" ++ truthText r.passed]

/-- The decimal numeral of an integer, unless it is too long. -/
def numeral (i : Int) : Except Failure String :=
  if Integer.isWritable i then .ok (Numeral.ofInt i) else .error (.value .longNumeral)

/-- The title of the chart of a sample. -/
def chartTitle (g : Generator Native) (s : Settings) : Except Failure Text :=
  match g.mode with
  | .deterministic => (numeral (s.seed.getD 0)).map fun n => "seed=" ++ n
  | .native => .ok ("native source=" ++ g.source.choice.name.text)

/-- Run the battery on words. -/
def testWords (m : Machine) (level : Value) (ws : List Word) : Except Failure Battery.Report :=
  if m.has .statistics then Battery.run .computed ws level else .error (.missing .statistics)

/-- Test a sample and perhaps draw a chart of it. -/
def runStats (m : Machine) (f : Flags) : Outcome :=
  match settingsOf m f with
  | .error e => .told m [] (endingOf e)
  | .ok (s, source) =>
    let g := generatorOf m s source
    match drawn g s.samples with
    | .error e => .told m [] (.failed e)
    | .ok ws =>
      match testWords m (f.level s) ws with
      | .error e => .told m [] (.failed e)
      | .ok report =>
        let lines := reportLines g.mode report
        let verdict : Ending := if report.passed then .success else .unclean
        match f.plot with
        | none => .told m lines verdict
        | some p =>
          match chartTitle g s, m.resolve p with
          | .error e, _ => .told m lines (.failed e)
          | _, .error e => .told m lines (.failed e)
          | .ok title, .ok p =>
            let drawing := Chart.draw (m.has .plotting) (.ok ws) p title m.tree
            match drawing.result with
            | .error e => ⟨lines, .failed e, drawing.tree, drawing.steps⟩
            | .ok q => ⟨lines ++ ["plot=" ++ q.text], verdict, drawing.tree, drawing.steps⟩

/-! ## Vectors -/

/-- The seeds that a text lists between commas; blank pieces do not count. -/
def listedSeeds (text : Text) : Except Failure (List Int) :=
  (((Text.pieces (.char ',') text).map Text.strip).filter (· ≠ [])).mapM
    (Value.integerOfText .marked)

/-- The line of a reference. -/
def referenceLine (r : Reference) : Except Failure Text :=
  (numeral r.seed).map fun seed =>
    "seed=" ++ seed ++ " state=" ++ " ".intercalate r.state ++ " outputs=" ++ " ".intercalate r.outputs

/-- The lines of references up to one that cannot be written, and how they end. -/
def referenceLines : List Reference → List Text × Ending
  | [] => ([], .success)
  | r :: rest =>
    match referenceLine r with
    | .error e => ([], .failed e)
    | .ok line =>
      let (lines, ending) := referenceLines rest
      (line :: lines, ending)

/-- Print the report on a manifest. -/
def reportManifest (m : Machine) (p : Path) : Outcome :=
  match Manifest.check p m.tree with
  | .error e => .told m [] (.failed e)
  | .ok r =>
    .told m [Text.ofChars (Json.pretty r.toValue)] (if r.isClean then .success else .unclean)

/-- Print or write the references of seeds. -/
def showReferences (m : Machine) (f : VectorFlags) (seeds : List Int) : Outcome :=
  if seeds.contains 0 then .told m [] (endingOf (.value .zeroSeed))
  else
    match f.write.mapM m.resolve, f.count.get (.kind (.index .list)) with
    | .error e, _ => .told m [] (.failed e)
    | _, .error e => .told m [] (.failed e)
    | .ok (some p), .ok count =>
      match Manifest.write p seeds count m.tree with
      | (.error e, t) => ⟨[], .failed e, t, []⟩
      | (.ok (), t) => ⟨[p.text], .success, t, []⟩
    | .ok none, .ok count =>
      match Reference.makeAll seeds count with
      | .error e => .told m [] (.failed e)
      | .ok references =>
        let (lines, ending) := referenceLines references
        .told m lines ending

/-- Check a manifest, or print or write references. -/
def runVectors (m : Machine) (f : VectorFlags) : Outcome :=
  match f.check with
  | some p =>
    match m.resolve p with
    | .error e => .told m [] (.failed e)
    | .ok p => reportManifest m p
  | none =>
    match listedSeeds f.seeds with
    | .error e => .told m [] (.failed e)
    | .ok [] => showReferences m f Reference.defaultSeeds
    | .ok seeds => showReferences m f seeds

/-! ## Sources -/

/-- A text with spaces behind it up to a width. -/
def padded (width : Nat) (text : String) : String :=
  String.ofList (text.toList ++ List.replicate (width - text.length) ' ')

/-- The line of a source. -/
def sourceLine (name : SourceName) (info : SourceInfo) : Text :=
  padded 10 name.text ++ " -> " ++ padded 10 info.choice.name.text ++ " deterministic_fallback=" ++
    truthText info.replayable ++ " (" ++ info.reason ++ ")"

/-- The lines of sources, found one after another in an environment. -/
def sourceLines (env : Environment) : List SourceName → List Text
  | [] => []
  | name :: rest =>
    let (info, env) := name.describe env
    sourceLine name info :: sourceLines env rest

/-- List the sources. -/
def runSources (m : Machine) : Outcome :=
  .told m (sourceLines m.environment SourceName.all) .success

/-! ## Command lines -/

/-- Run a command. -/
def Command.run (m : Machine) : Command → Outcome
  | generate f => runGenerate m f
  | stats f => runStats m f
  | vectors f => runVectors m f
  | sources => runSources m

/-- Run a command line. -/
def run (m : Machine) (words : List Text) : Outcome :=
  match parse words with
  | .error e => .told m [] (.usage e)
  | .ok .help => .told m [] .help
  | .ok (.command c) => c.run m

end SeedStream.CommandLine
