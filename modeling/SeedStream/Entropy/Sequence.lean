import SeedStream.Argument
import SeedStream.Entropy.Basic

/-!
# A fixed sequence as a source

A source that hands out given words in order. At their end it starts over or fails, as it was told
when it was made. Seeding it anew takes it back to the first word and is counted.
-/

namespace SeedStream

/-- A source that hands out given words. -/
structure Sequence where
  /-- The words, at least one. -/
  values : List Word
  /-- Whether the words start over at their end. -/
  cycle : Bool
  /-- The number of words handed out since the start or the last new start. -/
  position : Nat
  /-- The number of times the source was seeded anew. -/
  reseeds : Nat
  nonempty : values ≠ []

namespace Sequence

/-- A source of the given words, if there is one. -/
def ofWords? (values : List Word) (cycle : Bool) : Option Sequence :=
  if h : values = [] then none else some ⟨values, cycle, 0, 0, h⟩

/-- A source of the words that values stand for. -/
def ofValues (values : List Value) (cycle : Bool) : Except Failure Sequence := do
  let numbers ← values.mapM Value.toInteger
  match ofWords? (numbers.map Word.ofInt) cycle with
  | some s => .ok s
  | none => .error (.value .emptySequence)

/-- Go back to the first word. -/
def reseed (s : Sequence) : Sequence :=
  { s with reseeds := s.reseeds + 1, position := 0 }

/-- The word at the position or, at the end, the first one again. -/
def draw (s : Sequence) : Except Failure Int × Sequence :=
  match s.values[s.position]? with
  | some w => (.ok w.toNat, { s with position := s.position + 1 })
  | none =>
    if s.cycle then (.ok (s.values.head s.nonempty).toNat, { s with position := 1 })
    else (.error (.entropy .exhausted), s)

instance : EntropySource Sequence := ⟨reseed, draw⟩

/-- Drawing changes neither the words nor the count of new starts. -/
theorem draw_keeps (s : Sequence) :
    s.draw.2.values = s.values ∧ s.draw.2.cycle = s.cycle ∧ s.draw.2.reseeds = s.reseeds := by
  unfold draw
  split
  · exact ⟨rfl, rfl, rfl⟩
  · split <;> exact ⟨rfl, rfl, rfl⟩

end Sequence

end SeedStream
