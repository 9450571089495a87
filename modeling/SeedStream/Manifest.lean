import SeedStream.FileTree
import SeedStream.Json.Parser
import SeedStream.Json.Printer
import SeedStream.Reference
import SeedStream.Text.Lines

/-!
# Manifests

A manifest is a JSON file of references. Writing one makes the references first, so that a refused
seed leaves the file tree alone. Checking one makes the reference of each entry again and compares
it with what the entry says: an entry is verified, or it lacks its seed or outputs, or it does not
match.
-/

namespace SeedStream.Manifest

/-! ## Writing -/

/-- The algorithm that a manifest names. -/
def algorithm : String := "xoshiro128**/splitmix32"

/-- The content of a manifest. -/
def content (references : List Reference) : Value :=
  .object [("algorithm", .text algorithm), ("entries", .list (references.map Reference.toValue))]

/-- The text of a manifest. -/
def text (references : List Reference) : List Char :=
  Json.pretty (content references) ++ ['\n']

/-- Write references to a path, with the folder above it. The folder is made before it shows that a
    seed is too long to be written. -/
def place (references : List Reference) (p : Path) (t : FileTree) : Except Failure Unit × FileTree :=
  match t.ensureFolder p.parent with
  | (.error e, t) => (.error e, t)
  | (.ok (), t) =>
    if references.all fun r => Integer.isWritable r.seed then
      match t.write p (Text.encodeUtf8 (text references)) with
      | .error e => (.error e, t)
      | .ok t => (.ok (), t)
    else (.error (.value .longNumeral), t)

/-- Write the manifest of seeds. -/
def write (p : Path) (seeds : List Int) (count : Int) (t : FileTree) : Except Failure Unit × FileTree :=
  match Reference.makeAll seeds count with
  | .error e => (.error e, t)
  | .ok references => place references p t

/-- Write the manifest of seeds as a caller gives them. -/
def writeValues (p : Path) (seeds count : Value) (t : FileTree) : Except Failure Unit × FileTree :=
  match Reference.allOfValues seeds count with
  | .error e => (.error e, t)
  | .ok references => place references p t

/-! ## Checking -/

/-- An entry that says something else than the reference of its seed. -/
structure Mismatch where
  seed : Int
  expectedState : List String
  expectedOutputs : List String
  actualState : List String
  actualOutputs : List String
  deriving DecidableEq, Repr

/-- What became of an entry. -/
inductive Verdict
  | verified
  | missing
  | mismatched (m : Mismatch)
  deriving DecidableEq, Repr

/-- The text of the word that a value stands for: a text may be written in any base. -/
def wordText (v : Value) : Except Failure String := do
  let i ←
    match v with
    | .text s => Value.integerOfText .marked s
    | _ => v.toInteger
  return Word.hexText i

/-- The texts of the words that the items of a value stand for. -/
def wordTexts (v : Value) : Except Failure (List String) := do
  (← v.items).mapM wordText

/-- One text occurs within another. -/
def occursIn (part : Text) : Text → Bool
  | [] => part.isEmpty
  | c :: rest => part.isPrefixOf (c :: rest) || occursIn part rest

/-- Whether a value has a name among its fields, its items or, for a text, within it. -/
def hasName (name : Text) (entry : Value) : Except Failure Bool :=
  match entry with
  | .object fields => .ok (Value.field? name fields).isSome
  | .list items => .ok (items.any fun v => match v with | .text s => s == name | _ => false)
  | .text s => .ok (occursIn name s)
  | _ => .error (.kind (.membership entry.kind))

/-- Compare the fields of an entry with the reference of its seed. The outputs are read before the
    seed, and the state after it; an entry without a state is taken to have the right one. -/
def compareEntry (fields : List (Text × Value)) (seed outputs : Value) : Except Failure Verdict := do
  let expectedOutputs ← wordTexts outputs
  let seed ← seed.toInteger
  let actual ← Reference.make seed expectedOutputs.length
  let expectedState ← wordTexts ((Value.field? "state" fields).getD (Value.ofStrings actual.state))
  if actual.outputs = expectedOutputs ∧ actual.state = expectedState then return .verified
  else
    return .mismatched ⟨seed, expectedState, expectedOutputs, actual.state, actual.outputs⟩

/-- What becomes of an entry. -/
def checkEntry (entry : Value) : Except Failure Verdict := do
  if !(← hasName "seed" entry) then return .missing
  if !(← hasName "outputs" entry) then return .missing
  match entry with
  | .object fields =>
    match Value.field? "seed" fields, Value.field? "outputs" fields with
    | some seed, some outputs => compareEntry fields seed outputs
    | _, _ => return .missing
  | .text _ => .error (.kind .textField)
  | _ => .error (.kind .listField)

/-- What a check found. -/
structure Report where
  total : Nat
  verified : Nat
  missing : List Value
  mismatched : List Mismatch

/-- The report on entries with their verdicts. -/
def reportOf (checked : List (Value × Verdict)) : Report where
  total := checked.length
  verified := checked.countP fun c => c.2 == .verified
  missing := checked.filterMap fun c => if c.2 == .missing then some c.1 else none
  mismatched := checked.filterMap fun c =>
    match c.2 with
    | .mismatched m => some m
    | _ => none

/-- Nothing is missing and nothing is mismatched. -/
def Report.isClean (r : Report) : Bool :=
  r.missing.isEmpty && r.mismatched.isEmpty

/-- Check the entries of a manifest up to the first that cannot be read. -/
def checkContent (content : Value) : Except Failure Report := do
  match content with
  | .object fields =>
    let entries ← ((Value.field? "entries" fields).getD (.list [])).items
    let verdicts ← entries.mapM checkEntry
    return reportOf (entries.zip verdicts)
  | _ => .error (.noFields content.kind)

/-- Check the bytes of a manifest. -/
def checkBytes (bytes : List UInt8) : Except Failure Report :=
  match Text.decodeUtf8 bytes with
  | .error e => .error (.utf8 e)
  | .ok cs => do checkContent (← Json.parse (Text.unifyNewlines cs))

/-- Check the manifest at a path. -/
def check (p : Path) (t : FileTree) : Except Failure Report := do
  checkBytes (← t.read p)

/-- A mismatch as a value. -/
def Mismatch.toValue (m : Mismatch) : Value :=
  .object [("seed", .int m.seed),
    ("expected", .object [("state", Value.ofStrings m.expectedState), ("outputs", Value.ofStrings m.expectedOutputs)]),
    ("actual", .object [("state", Value.ofStrings m.actualState), ("outputs", Value.ofStrings m.actualOutputs)])]

/-- A report as a value. -/
def Report.toValue (r : Report) : Value :=
  .object [("total", .int r.total), ("verified", .int r.verified), ("missing", .list r.missing),
    ("mismatched", .list (r.mismatched.map Mismatch.toValue))]

end SeedStream.Manifest
