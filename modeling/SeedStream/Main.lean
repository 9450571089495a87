import SeedStream.CommandLine.Run

/-!
# The program

The outer layer of the command line. It reads the files that a command line names and as many bytes
of the entropy device as the run may draw, runs the command, writes what changed in the file tree
and prints what was printed.
-/

namespace SeedStream.CommandLine

attribute [local instance] Memory.standard

/-- The paths that the options of a command name. -/
def Command.paths : Command → List Path
  | generate f => f.protocol.toList ++ f.output.toList
  | stats f => f.protocol.toList ++ f.plot.toList
  | vectors f => f.write.toList ++ f.check.toList
  | sources => []

/-- The settings of a command that has some. -/
def Command.settings? (m : Machine) : Command → Option Settings
  | generate f => (settingsOf m f).toOption.map (·.1)
  | stats f => (settingsOf m f).toOption.map (·.1)
  | vectors _ => none
  | sources => none

/-- The most words that a run draws from its source, and one to try the source. -/
def drawLimit (s : Settings) : Nat :=
  max s.count.toNat s.samples.toNat + 1

/-- What is at a place of the file system. -/
def lookAt (place : String) : IO (Option Entry) := do
  try
    let bytes ← IO.FS.readBinFile place
    return some (.file bytes.toList)
  catch e =>
    match e with
    | .inappropriateType .. => return some .folder
    | _ => return none

/-- Add to a tree what is found on the way to a place, up to the first name that leads nowhere. -/
def load (t : FileTree) (place : Location) : List Text → IO FileTree
  | [] => return t
  | part :: rest => do
    let place := place ++ [part]
    match ← lookAt (Path.mk .root place).text.toString with
    | none => return t
    | some entry => load (t.put place entry) place rest

/-- Add to a tree what is found on the way to each of several paths. -/
def loadAll (t : FileTree) (paths : List Path) : IO FileTree :=
  paths.foldlM (fun t p => load t [] (Path.resolve t.working p).parts) t

/-- Write to the file system what a run changed. -/
def store (before after : FileTree) : IO Unit :=
  after.entries.reverse.forM fun e => do
    if before.get? e.1 != some e.2 then
      let place := (Path.mk .root e.1).text.toString
      match e.2 with
      | .folder => IO.FS.createDirAll place
      | .file bytes => IO.FS.writeBinFile place ⟨bytes.toArray⟩

/-- An environment with so many words from the entropy device and the present time. -/
def surroundings (words : Nat) : IO Environment := do
  let pool ← IO.getRandomBytes (UInt64.ofNat (4 * words)).toUSize
  let start ← IO.monoNanosNow
  let word (k : Nat) := (List.range 4).map fun i => (pool.data[4 * k + i]?).getD 0
  return Environment.fresh (fun k => Int.ofNat (start + k)) fun k => .bytes (word k)

/-- Run a command on the machine itself. -/
def perform (c : Command) : IO Outcome := do
  let working := Path.ofText (toString (← IO.currentDir))
  let tree ← loadAll ⟨working, []⟩ (working :: c.paths)
  let missing := [Facility.plotting]
  let settings := c.settings? ⟨← surroundings 1, tree, missing⟩
  let tree ← loadAll tree (settings.bind (·.output)).toList
  let m := ⟨← surroundings ((settings.map drawLimit).getD 1), tree, missing⟩
  let outcome := c.run m
  store tree outcome.tree
  return outcome

/-- Tell how a run ended. -/
def Ending.report : Ending → IO Unit
  | success => return
  | unclean => return
  | help => IO.println ("usage: " ++ programName ++ " [-h] \x7b" ++ ",".intercalate commandNames ++ "\x7d ...")
  | usage e => IO.eprintln e.message.toString
  | failed e => IO.eprintln (programName ++ ": " ++ e.message.toString)

/-- Run a command line and tell the exit code. -/
def execute (words : List String) : IO Nat := do
  let words := words.map Text.ofString
  let outcome ←
    match parse words with
    | .ok (.command c) => perform c
    | _ => pure (run ⟨← surroundings 1, ⟨Path.ofText "/", []⟩, []⟩ words)
  outcome.printed.forM fun line => IO.println line.toString
  outcome.ending.report
  return outcome.ending.exitCode

end SeedStream.CommandLine

/-- The program. -/
def main (words : List String) : IO UInt32 := do
  return UInt32.ofNat (← SeedStream.CommandLine.execute words)
