import SeedStream.Argument
import SeedStream.Text.Blank
import SeedStream.Text.LowerCase

/-!
# Output formats

How a sample of words is written: as lines of hexadecimal or decimal text, as bytes, or as an array
file. A format is chosen by name.
-/

namespace SeedStream

/-- How a sample is written. -/
inductive Format
  | hex
  | dec
  | bin
  | npy
  deriving DecidableEq, Repr

namespace Format

/-- The formats in the order in which they are listed. -/
def all : List Format := [hex, dec, bin, npy]

/-- The name of a format. -/
def text : Format → String
  | hex => "hex"
  | dec => "dec"
  | bin => "bin"
  | npy => "npy"

/-- The format that a text names, blanks around it and capital letters allowed. -/
def parse? (t : Text) : Option Format :=
  all.find? fun f => f.text == Text.lower (Text.strip t)

/-- The format that a value names. -/
def ofValue (v : Value) : Except Failure Format := do
  match parse? (← v.plainText) with
  | some f => .ok f
  | none => .error (.value (.unknownFormat v.display))

/-- The format writes bytes that are no text. -/
def isBinary : Format → Bool
  | hex => false
  | dec => false
  | bin => true
  | npy => true

theorem mem_all (f : Format) : f ∈ all := by
  cases f <;> decide

end Format

end SeedStream
