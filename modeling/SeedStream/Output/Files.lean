import SeedStream.Output.Codec

/-!
# Samples in files

Writing a sample to a path and reading one from it. A sample is checked, also for being no longer
than an array can be, before the file tree is touched; then the folder above the path is made, and
then the file is written. An array file always has the ending `.npy` in its name.
-/

namespace SeedStream.Output

/-- The ending that the name of an array file has. -/
def arrayEnding : Text := ".npy"

/-- The path that an array file is written to: its text with the ending, if it lacks it. -/
def arrayPath (p : Path) : Path :=
  if arrayEnding.isSuffixOf p.text then p else Path.ofText (p.text ++ arrayEnding)

/-- The path that is reported for an array file: a path whose last name has another ending, or
    none, gets the ending put behind its last name. -/
def reportedPath (p : Path) : Except Failure Path :=
  if p.suffix = arrayEnding then .ok p
  else
    match p.withName? (p.name ++ arrayEnding) with
    | some q => .ok q
    | none => .error (.value (.emptyName p.text))

/-- Write the bytes of a sample, with the folder above it, and report a path. -/
def place (p file : Path) (bytes : List UInt8) (reported : Except Failure Path) (t : FileTree) :
    Except Failure Path × FileTree :=
  match t.ensureFolder p.parent with
  | (.error e, t) => (.error e, t)
  | (.ok (), t) =>
    match t.write file bytes with
    | .error e => (.error e, t)
    | .ok t => (reported, t)

/-- Write a sample to a path in a format. -/
def write (ws : List Word) (p : Path) (f : Format) (t : FileTree) : Except Failure Path × FileTree :=
  if arrayLimit ≤ ws.length then (.error (.value .dimension), t)
  else
    match f with
    | .npy => place p (arrayPath p) (encode f ws) (reportedPath p) t
    | _ => place p p (encode f ws) (.ok p) t

/-- The sample in the file at a path. -/
def read [Memory] (p : Path) (f : Format) (t : FileTree) : Except Failure WordArray := do
  decode f (← t.read p)

/-! ## With arguments as a caller gives them -/

/-- The words that the values of a nested list stand for. -/
def sample (values : Value) : Except Failure (List Word) := do
  return (← (← values.row).mapM Value.asWordNumber).map Word.ofInt

/-- The lines of a sample. -/
def formatted (values format : Value) : Except Failure (List (List Char)) := do
  let f ← Format.ofValue format
  lines f (← sample values)

/-- Write a sample. -/
def writeValues (values : Value) (p : Path) (format : Value) (t : FileTree) :
    Except Failure Path × FileTree :=
  match Format.ofValue format with
  | .error e => (.error e, t)
  | .ok f =>
    match sample values with
    | .error e => (.error e, t)
    | .ok ws => write ws p f t

end SeedStream.Output
