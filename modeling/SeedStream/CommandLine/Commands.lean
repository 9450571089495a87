import SeedStream.CommandLine.Options
import SeedStream.Double.Literal
import SeedStream.Entropy.Native
import SeedStream.Output.Format
import SeedStream.Path
import SeedStream.Reference

/-!
# Commands

The commands and their options. A command line names a command, whose options follow it; words that
neither the program nor the command knows are a fault of usage.
-/

namespace SeedStream.CommandLine

/-- The options of `generate` and `stats` as far as they were given. -/
structure Flags where
  seed : Option (Given Int)
  count : Option (Given Int)
  source : Option (Given SourceName)
  format : Option (Given Format)
  output : Option Path
  samples : Option (Given Int)
  alpha : Option (Given Float)
  plot : Option Path
  protocol : Option Path

/-- No options at all. -/
def Flags.none : Flags :=
  ⟨.none, .none, .none, .none, .none, .none, .none, .none, .none⟩

/-- The options of `vectors`. -/
structure VectorFlags where
  seeds : Text
  count : Given Int
  write : Option Path
  check : Option Path

/-- The options of `vectors` when none is given. -/
def VectorFlags.none : VectorFlags :=
  ⟨[], .value Reference.defaultCount, .none, .none⟩

/-- A command with its options. -/
inductive Command
  | generate (flags : Flags)
  | stats (flags : Flags)
  | vectors (flags : VectorFlags)
  | sources

/-! ## Options -/

section

variable {α : Type}

/-- An option whose texts are read as values of a kind. -/
def valueFlag {β : Type} (name : String) (read : Text → Except ValueProblem β)
    (set : Given β → α → α) : Flag α :=
  ⟨[name], some fun given record =>
    match given with
    | .value text => (read text).map fun b => set (.value b) record
    | .emptied => .ok (set .emptied record)⟩

/-- An option that takes an integer; `kind` is what messages call it. -/
def integerFlag (name kind : String) (spelling : Integer.Spelling) (set : Given Int → α → α) :
    Flag α :=
  valueFlag name
    (fun text => (Integer.parse spelling text.chars).mapError fun _ => .form kind text) set

/-- An option that takes a double. -/
def realFlag (name : String) (set : Given Float → α → α) : Flag α :=
  valueFlag name
    (fun text =>
      match Double.parse? text.chars with
      | some x => .ok x
      | none => .error (.form "float" text)) set

/-- An option that takes one of the texts that name a choice. -/
def choiceFlag {β : Type} (name : String) (choices : List (String × β)) (set : Given β → α → α) :
    Flag α :=
  valueFlag name
    (fun text =>
      match choices.find? fun c => Text.ofString c.1 == text with
      | some c => .ok c.2
      | none => .error (.choice text (choices.map (·.1)))) set

/-- An option that takes any text; an emptied one has the empty text. -/
def textFlag (name : String) (set : Text → α → α) : Flag α :=
  valueFlag name .ok fun given => set (given.value?.getD [])

/-- An option that takes a path; an empty one counts as absent. -/
def pathFlag (name : String) (set : Option Path → α → α) : Flag α :=
  textFlag name fun text => set (if text.isEmpty then .none else some (Path.ofText text))

end

/-- An integer in any base is called by the way it is read. -/
def markedInteger : String := "_parse_int"

def seedFlag : Flag Flags :=
  integerFlag "--seed" markedInteger .marked fun i f => { f with seed := some i }

def sourceFlag : Flag Flags :=
  choiceFlag "--source" (SourceName.all.map fun n => (n.text, n)) fun n f => { f with source := some n }

def countFlag : Flag Flags :=
  integerFlag "--count" "int" .plain fun i f => { f with count := some i }

def formatFlag : Flag Flags :=
  choiceFlag "--format" (Format.all.map fun x => (x.text, x)) fun x f => { f with format := some x }

def protocolFlag : Flag Flags :=
  pathFlag "--protocol" fun p f => { f with protocol := p }

/-- The options of `generate`. -/
def generateFlags : List (Flag Flags) :=
  [.help, seedFlag, countFlag, sourceFlag, formatFlag,
    pathFlag "--output" fun p f => { f with output := p },
    protocolFlag]

/-- The options of `stats`. -/
def statsFlags : List (Flag Flags) :=
  [.help, seedFlag,
    integerFlag "--samples" "int" .plain fun i f => { f with samples := some i },
    sourceFlag,
    realFlag "--alpha" fun x f => { f with alpha := some x },
    pathFlag "--plot" fun p f => { f with plot := p },
    protocolFlag]

/-- The options of `vectors`. -/
def vectorFlags : List (Flag VectorFlags) :=
  [.help,
    textFlag "--seeds" fun text f => { f with seeds := text },
    integerFlag "--count" "int" .plain fun i f => { f with count := i },
    pathFlag "--write" fun p f => { f with write := p },
    pathFlag "--check" fun p f => { f with check := p }]

/-! ## Command lines -/

/-- A command line that is wrong, and the command whose options are, if it got that far. -/
structure UsageError where
  command : Option String
  fault : UsageFault
  deriving DecidableEq, Repr

/-- The name by which the program reports errors. -/
def programName : String := "dualrng"

/-- The line that reports a fault of usage. -/
def UsageError.message (e : UsageError) : Text :=
  let place :=
    match e.command with
    | some name => programName ++ " " ++ name
    | none => programName
  place ++ ": error: " ++ e.fault.message

/-- What a command line asks for. -/
inductive Invocation
  | help
  | command (c : Command)

/-- Where the words before a command lead. -/
inductive Opening
  | help
  /-- Words that are left over, the name of the command and the words behind it. -/
  | command (left : List Text) (name : Text) (words : List Text)

/-- A word left over comes before those left behind it. -/
def Opening.leave (word : Text) : Opening → Opening
  | help => help
  | command left name words => command (word :: left) name words

/-- Find the command: the first value. Two dashes with a word behind them stand where the command
    should be. -/
def findCommand : List (Text × Token Unit) → Except UsageFault Opening
  | [] => .error .noCommand
  | (word, .value) :: rest => .ok (.command [] word (rest.map (·.1)))
  | (word, .separator) :: rest =>
    if rest.isEmpty then .error .noCommand else .ok (.command [] word (rest.map (·.1)))
  | (_, .flag f name attached) :: _ => (askHelp f name attached).map fun _ => .help
  | (word, .unknown) :: rest => (findCommand rest).map (Opening.leave word)

/-- The names of the commands. -/
def commandNames : List String := ["generate", "stats", "vectors", "sources"]

/-- Read the options of a command. -/
def parseCommand (word : Text) (words : List Text) : Except UsageError (Parsed Command) :=
  let named {β : Type} (name : String) (flags : List (Flag β)) (record : β) (make : β → Command) :=
    match parseFlags flags record words with
    | .ok .help => .ok .help
    | .ok (.filled record left) => .ok (.filled (make record) left)
    | .error e => .error ⟨some name, e⟩
  match commandNames.find? fun n => Text.ofString n == word with
  | some "generate" => named "generate" generateFlags .none .generate
  | some "stats" => named "stats" statsFlags .none .stats
  | some "vectors" => named "vectors" vectorFlags .none .vectors
  | some "sources" => named "sources" [.help] () fun _ => .sources
  | _ => .error ⟨none, .argument "command" (.choice word commandNames)⟩

/-- What a command line asks for. -/
def parse (words : List Text) : Except UsageError Invocation := do
  match (readWords [Flag.help] words).bind findCommand with
  | .error e => .error ⟨none, e⟩
  | .ok .help => return .help
  | .ok (.command before name rest) =>
    match ← parseCommand name rest with
    | .help => return .help
    | .filled command left =>
      let left := before ++ left
      if left.isEmpty then return .command command else .error ⟨none, .unrecognized left⟩

end SeedStream.CommandLine
