import SeedStream.Text.Letter
import SeedStream.Text.Pieces

/-!
# Paths

A path is where it starts and the names it goes through. Reading one drops empty names and names
that are a single dot. Two slashes at the start are kept as they are; three or more count as one.
-/

namespace SeedStream

/-- Where a path starts. -/
inductive Anchor
  /-- At the working folder. -/
  | here
  /-- At the root. -/
  | root
  /-- At a root written with two slashes. -/
  | doubleRoot
  deriving DecidableEq, Repr

/-- The text of an anchor. -/
def Anchor.text : Anchor → String
  | here => ""
  | root => "/"
  | doubleRoot => "//"

/-- A path: where it starts and the names it goes through. -/
structure Path where
  anchor : Anchor
  parts : List Text
  deriving DecidableEq, Repr

namespace Path

/-- What stands between the names of a path. -/
def slash : Letter := .char '/'

/-- What sets the ending of a name apart. -/
def dot : Letter := .char '.'

/-- The name that leads back. -/
def back : Text := [dot, dot]

/-- A piece that a path goes through. -/
def isName (part : Text) : Bool :=
  part != [] && part != [dot]

/-- The anchor that the slashes at the start of a text stand for. -/
def anchorOf (t : Text) : Anchor :=
  match (t.takeWhile (· == slash)).length with
  | 0 => .here
  | 2 => .doubleRoot
  | _ => .root

/-- The path that a text writes. -/
def ofText (t : Text) : Path :=
  ⟨anchorOf t, (Text.pieces slash t).filter isName⟩

/-- The text of a path; the working folder itself is a dot. -/
def text (p : Path) : Text :=
  if p.anchor = .here ∧ p.parts = [] then [dot] else p.anchor.text ++ Text.joined slash p.parts

/-- The last name of a path, empty if it goes through none. -/
def name (p : Path) : Text :=
  p.parts.getLastD []

/-- The path without its last name. -/
def parent (p : Path) : Path :=
  { p with parts := p.parts.dropLast }

/-- The path with another last name, if it has one. -/
def withName? (p : Path) (name : Text) : Option Path :=
  if p.name = [] then none else some { p with parts := p.parts.dropLast ++ [name] }

/-- The end of a name from its last dot on; a dot that begins or ends the name does not count. -/
def suffix (p : Path) : Text :=
  let tail := p.name.reverse.takeWhile (· != dot)
  if tail.isEmpty || p.name.length ≤ tail.length + 1 then [] else dot :: tail.reverse

/-- A path behind another one, unless it has a start of its own. -/
def under (folder p : Path) : Path :=
  match p.anchor with
  | .here => { folder with parts := folder.parts ++ p.parts }
  | _ => p

/-- Follow names from a place: two dots lead back. -/
def follow (place : List Text) : List Text → List Text
  | [] => place
  | part :: rest => follow (if part = back then place.dropLast else place ++ [part]) rest

/-- The texts under which the names of a path are looked up one after another, where `place` holds
    the names gone through so far: two dots lead back, or further out where nothing is left. -/
def lookups (start : Text) (place : List Text) : List Text → List Text
  | [] => []
  | part :: rest =>
    if part = back then
      let place :=
        match place.getLast? with
        | none => if start = [] then [back] else []
        | some last => if last = back then place ++ [back] else place.dropLast
      lookups start place rest
    else
      let place := place ++ [part]
      (start ++ Text.joined slash place) :: lookups start place rest

/-- The texts under which the names of a path are looked up when it is followed from its start. -/
def lookupTexts (p : Path) : List Text :=
  lookups (match p.anchor with | .here => [] | _ => [slash]) [] p.parts

/-- The path from the root that a path seen from a folder stands for. -/
def resolve (folder p : Path) : Path :=
  ⟨.root, follow [] (under folder p).parts⟩

/-- A path without two dots in it, seen from the root, stands for itself. -/
theorem follow_eq {place parts : List Text} (h : back ∉ parts) :
    follow place parts = place ++ parts := by
  induction parts generalizing place with
  | nil => simp [follow]
  | cons part rest ih =>
    have first : part ≠ back := fun e => h (by simp [e])
    have others : back ∉ rest := fun m => h (by simp [m])
    rw [follow, if_neg first, ih others]
    simp

end Path

end SeedStream
