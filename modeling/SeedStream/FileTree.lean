import SeedStream.Failure
import SeedStream.Path

/-!
# File trees

A tree of folders and files with a working folder in it. Reading and writing go through every name
of a path, which must lead through folders that are there; the text of the path must first be fit to
be looked up. A failed operation gives no new tree, so it leaves none changed, save that making the
folders above a path may stop half-way.
-/

namespace SeedStream

/-- What a place of a tree holds. -/
inductive Entry
  | folder
  | file (bytes : List UInt8)
  deriving DecidableEq, Repr

/-- A place of a tree: the names that lead to it from the root. -/
abbrev Location := List Text

/-- A tree of folders and files. -/
structure FileTree where
  /-- The working folder. -/
  working : Path
  /-- What the places hold. The root is a folder and is not listed. -/
  entries : List (Location × Entry)

namespace FileTree

/-- What a place holds. -/
def get? (t : FileTree) (place : Location) : Option Entry :=
  if place = [] then some .folder else (t.entries.find? fun e => e.1 = place).map (·.2)

/-- Put an entry at a place. -/
def put (t : FileTree) (place : Location) (entry : Entry) : FileTree :=
  { t with entries := (place, entry) :: t.entries.filter fun e => e.1 ≠ place }

/-- The greatest number of bytes of a name. -/
def maxNameBytes : Nat := 255

/-- The greatest number of bytes of the text of a path. -/
def maxPathBytes : Nat := 4095

/-- The bytes of a text that is looked up: every letter has some, and none of them is zero. -/
def lookupBytes (text : Text) : Except Failure (List UInt8) :=
  match Text.nameBytes text with
  | .error e => .error (.value (.letters e))
  | .ok bytes => if bytes.contains 0 then .error (.value .nullByte) else .ok bytes

/-- The number of bytes of a name. -/
def nameSize (name : Text) : Nat :=
  match Text.nameBytes name with
  | .ok bytes => bytes.length
  | .error _ => 0

/-- Go through names from a place; every place left behind must be a folder. -/
def walk (t : FileTree) (place : Location) : List Text → Except FileFault Location
  | [] => .ok place
  | part :: rest =>
    match t.get? place with
    | none => .error .absent
    | some (.file _) => .error .notFolder
    | some .folder =>
      if maxNameBytes < nameSize part then .error .longName
      else walk t (if part = Path.back then place.dropLast else place ++ [part]) rest

/-- A fault at a path as a failure. -/
def failAt (p : Path) (fault : FileFault) : Failure :=
  .file fault p.text

/-- The place that a path leads to. -/
def locate (t : FileTree) (p : Path) : Except Failure Location := do
  let bytes ← lookupBytes p.text
  if maxPathBytes < bytes.length then .error (failAt p .longName)
  else (t.walk [] (Path.under t.working p).parts).mapError (failAt p)

/-- The path from the root that a path stands for. Every name of it is looked up on the way. -/
def resolve (t : FileTree) (p : Path) : Except Failure Path := do
  p.lookupTexts.forM fun text => do let _ ← lookupBytes text
  return Path.resolve t.working p

/-- The bytes of a file. -/
def read (t : FileTree) (p : Path) : Except Failure (List UInt8) := do
  match t.get? (← t.locate p) with
  | some (.file bytes) => .ok bytes
  | some .folder => .error (failAt p .isFolder)
  | none => .error (failAt p .absent)

/-- Write a file, in place of the one that is there. -/
def write (t : FileTree) (p : Path) (bytes : List UInt8) : Except Failure FileTree := do
  let place ← t.locate p
  match t.get? place with
  | some .folder => .error (failAt p .isFolder)
  | _ => .ok (t.put place (.file bytes))

/-- A path leads to a folder. -/
def isFolder (t : FileTree) (p : Path) : Bool :=
  match t.locate p with
  | .error _ => false
  | .ok place => t.get? place == some .folder

/-- A path leads to a file or a folder. -/
def holds (t : FileTree) (p : Path) : Bool :=
  match t.locate p with
  | .error _ => false
  | .ok place => (t.get? place).isSome

/-- Make one folder. -/
def makeOne (t : FileTree) (p : Path) : Except Failure FileTree := do
  let place ← t.locate p
  match t.get? place with
  | some _ => .error (failAt p .present)
  | none => .ok (t.put place .folder)

/-- Make one folder unless it is there, which is no failure. -/
def ensureOne (t : FileTree) (p : Path) : Except Failure FileTree :=
  match t.makeOne p with
  | .ok t => .ok t
  | .error e => if t.isFolder p then .ok t else .error e

/-- Make the folder that the first `depth` names of a path lead to, with the folders above it. What
    was made stays made when a later step fails. -/
def ensureDepth (p : Path) : Nat → FileTree → Except Failure Unit × FileTree
  | 0, t =>
    match t.ensureOne { p with parts := [] } with
    | .ok t => (.ok (), t)
    | .error e => (.error e, t)
  | depth + 1, t =>
    let q := { p with parts := p.parts.take (depth + 1) }
    match t.makeOne q with
    | .ok t => (.ok (), t)
    | .error (.file .absent _) =>
      match ensureDepth p depth t with
      | (.ok (), t) =>
        match t.ensureOne q with
        | .ok t => (.ok (), t)
        | .error e => (.error e, t)
      | (.error e, t) => (.error e, t)
    | .error e => if t.isFolder q then (.ok (), t) else (.error e, t)

/-- Make a folder with the folders above it. -/
def ensureFolder (p : Path) (t : FileTree) : Except Failure Unit × FileTree :=
  ensureDepth p p.parts.length t

/-- What was put at a place is found there. -/
theorem get?_put {t : FileTree} {place : Location} (h : place ≠ []) (entry : Entry) :
    (t.put place entry).get? place = some entry := by
  simp [put, get?, h]

/-- No other place changes. -/
theorem get?_put_of_ne {t : FileTree} {place other : Location} (h : other ≠ place) (entry : Entry) :
    (t.put place entry).get? other = t.get? other := by
  unfold put get?
  by_cases root : other = []
  · simp [root]
  · have tests : (fun e : Location × Entry => !decide (e.1 = place) && decide (e.1 = other)) =
        fun e => decide (e.1 = other) := by
      funext e
      by_cases found : e.1 = other
      · simp [found, h]
      · simp [found]
    simp [root, Ne.symm h, tests]

end FileTree

end SeedStream
