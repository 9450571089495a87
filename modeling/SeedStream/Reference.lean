import SeedStream.Argument
import SeedStream.Seed

/-!
# Reference vectors

A seed with the state it expands to and the first outputs of that state, written as words. The seed
zero has none, because it stands for native mode.
-/

namespace SeedStream

/-- The seed of a stream, its first state and its first outputs. -/
structure Reference where
  seed : Int
  state : List String
  outputs : List String
  deriving DecidableEq, Repr

namespace Reference

/-- The seeds that references are made for unless others are given. -/
def defaultSeeds : List Int := [1, 42, 12345, 0xdeadbeef, 0xffffffff]

/-- The number of outputs unless another one is given. -/
def defaultCount : Int := 5

/-- The reference of a seed, zero or not; a negative number of outputs counts as none. -/
def describe (seed count : Int) : Reference :=
  let s := State.ofSeed seed
  ⟨seed, s.words.map Word.hex, (s.outputs count.toNat).map Word.hex⟩

/-- The reference of a seed. -/
def make (seed count : Int) : Except Failure Reference :=
  if seed = 0 then .error (.value .zeroSeed) else .ok (describe seed count)

/-- The references of seeds up to the first that has none. -/
def makeAll (seeds : List Int) (count : Int) : Except Failure (List Reference) :=
  seeds.mapM fun seed => make seed count

/-- The fields of a reference. -/
def toValue (r : Reference) : Value :=
  .object [("seed", .int r.seed), ("state", .ofStrings r.state),
    ("outputs", .ofStrings r.outputs)]

/-! ## With arguments as a caller gives them -/

/-- The value is a number that is zero. -/
def isZero (v : Value) : Bool :=
  v.compareInt? 0 == some .eq

/-- The reference of a seed. -/
def ofValues (seed count : Value) : Except Failure Reference :=
  if isZero seed then .error (.value .zeroSeed)
  else do
    let seed ← seed.asBits
    let count ← count.asIndex
    make seed count

/-- The references of seeds. -/
def allOfValues (seeds count : Value) : Except Failure (List Reference) := do
  (← seeds.items).mapM fun seed => ofValues seed count

/-- The default seeds as a caller would give them. -/
def defaultSeedsValue : Value :=
  .list (defaultSeeds.map .int)

theorem make_eq_ok_iff {seed count : Int} {r : Reference} :
    make seed count = .ok r ↔ seed ≠ 0 ∧ r = describe seed count := by
  unfold make
  by_cases h : seed = 0 <;> simp [h, eq_comm]

end Reference

end SeedStream
