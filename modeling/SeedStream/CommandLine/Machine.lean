import SeedStream.CommandLine.Commands
import SeedStream.Settings
import SeedStream.Text.Lines
import SeedStream.Yaml.Document

/-!
# The machine of a run

What a command finds when it runs: an environment, a file tree and the facilities that are
installed. The settings of a run come from a protocol file, if one is named, and from the options;
an option that was given counts before the file, and the file before the standard settings.
-/

namespace SeedStream.CommandLine

/-- What a command finds when it runs. -/
structure Machine where
  environment : Environment
  tree : FileTree
  /-- The facilities that are not installed. -/
  missing : List Facility

namespace Machine

/-- A facility is installed. -/
def has (m : Machine) (f : Facility) : Bool :=
  !m.missing.contains f

/-- The path from the root that a path stands for. -/
def resolve (m : Machine) (p : Path) : Except Failure Path :=
  m.tree.resolve p

/-- The value in a protocol file. -/
def protocolValue (m : Machine) (p : Path) : Except Failure Value :=
  if !m.has .protocols then .error (.missing .protocols)
  else
    match m.tree.read p with
    | .error e => .error e
    | .ok bytes =>
      match Text.decodeUtf8 bytes with
      | .error e => .error (.utf8 e)
      | .ok cs => Yaml.parse (Text.unifyNewlines cs)

/-- The mapping in a protocol file; an empty file holds an empty one. -/
def protocol (m : Machine) (p : Path) : Except Failure (List (Text × Value)) := do
  let p ← m.resolve p
  match ← m.protocolValue p with
  | .null => .ok []
  | .object fields => .ok fields
  | _ => .error (.value (.notMapping p.text))

end Machine

/-- The settings with the values of options in place of what they said. -/
def Flags.over (f : Flags) (s : Settings) : Settings :=
  { s with
    seed := (f.seed.bind Given.value?).or s.seed
    source := ((f.source.bind Given.value?).map fun n => Text.ofString n.text).getD s.source
    count := (f.count.bind Given.value?).getD s.count
    format := (f.format.bind Given.value?).getD s.format
    output := f.output.or s.output
    samples := (f.samples.bind Given.value?).getD s.samples
    alpha := (f.alpha.bind Given.value?).getD s.alpha }

/-- Without options the settings stay as they are. -/
theorem Flags.none_over (s : Settings) : Flags.none.over s = s := by
  cases s
  rfl

/-- An option that was emptied is a failure. -/
def checkGiven {β : Type} (given : Option (Given β)) (e : Failure) : Except Failure Unit :=
  given.forM fun given => (given.get e).map fun _ => ()

/-- The source of the settings, if they make sense. What an emptied option stands for, a list without
    items, is neither a name nor a number. -/
def Flags.sourceOf (f : Flags) (s : Settings) : Except Failure SourceName := do
  checkGiven f.source (.value (.unknownSource "[]"))
  let name ← SourceName.ofValue (.text s.source)
  checkGiven f.format (.value (.unknownFormat "[]"))
  checkGiven f.count (.kind (.order .less .list .int))
  Settings.checkCount s.count
  checkGiven f.samples (.kind (.order .lessOrEqual .list .int))
  Settings.checkSamples s.samples
  return name

/-- The level of the tests of a run, as it was given. -/
def Flags.level (f : Flags) (s : Settings) : Value :=
  match f.alpha with
  | some .emptied => .list []
  | _ => .real s.alpha

/-- The settings before the options count: those of a mapping, or the standard ones. -/
def baseSettings : Option (List (Text × Value)) → Except Failure Settings
  | none => .ok Settings.standard
  | some fields => Settings.ofFields fields

/-- The settings that options make of a mapping, and their source. -/
def Flags.built (f : Flags) (mapping : Option (List (Text × Value))) :
    Except Failure (Settings × SourceName) := do
  let s := f.over (← baseSettings mapping)
  return (s, ← f.sourceOf s)

/-- The settings that options make of a mapping for a run, and their source. The generator of a run takes no
    emptied seed. -/
def Flags.settings (f : Flags) (mapping : Option (List (Text × Value))) :
    Except Failure (Settings × SourceName) := do
  let s := f.over (← baseSettings mapping)
  let source ← f.sourceOf s
  checkGiven f.seed (.kind (.index .list))
  return (s, source)

theorem Flags.settings_eq (f : Flags) (mapping : Option (List (Text × Value))) :
    f.settings mapping = do
      let made ← f.built mapping
      checkGiven f.seed (.kind (.index .list))
      return made := by
  rw [settings, built, bind_assoc]
  refine congrArg (bind (baseSettings mapping)) (funext fun b => ?_)
  rw [bind_assoc]
  rfl

/-- The settings of a run and its source. -/
def settingsOf (m : Machine) (f : Flags) : Except Failure (Settings × SourceName) := do
  f.settings (← f.protocol.mapM m.protocol)

end SeedStream.CommandLine
