import SeedStream.Argument
import SeedStream.Word

/-!
# Samples

The sample of words that a nested list of values stands for. Integers of at most 64 bits are cut to
a word, and doubles lose their places. A longer integer, or a value that is no number, makes the
list a list of single objects, each of which must fit a word.
-/

namespace SeedStream.Sample

/-- A value that an array of numbers of 64 bits can hold. -/
def isPlain : Value → Bool
  | .bool _ => true
  | .int i => Value.isLong i
  | .real _ => true
  | _ => false

/-- The words of a list of values. -/
def ofRow (values : List Value) : Except Failure (List Word) := do
  let numbers ← values.mapM (if values.all isPlain then Value.toInteger else Value.asWordNumber)
  return numbers.map Word.ofInt

/-- The words of a nested list of values. -/
def ofValue (values : Value) : Except Failure (List Word) := do
  ofRow (← values.row)

/-- The words of a sample that must have one at least. -/
def nonempty (values : Value) : Except Failure (List Word) := do
  let ws ← ofValue values
  if ws.isEmpty then .error (.value .emptySample) else .ok ws

end SeedStream.Sample
