import SeedStream.Lanes

/-!
# Scans of seeded states

Searches over the steps of seeded states: where a state collapses to zero, where the streams of two
seeds part, and which seeds of a row give equal first outputs. A negative number of steps counts as
none.
-/

namespace SeedStream.Scan

/-- The steps that a scan for zero states takes unless told otherwise. -/
def defaultSteps : Int := 65536

/-- The outputs that a comparison of two streams looks at unless told otherwise. -/
def defaultLimit : Int := 1024

/-- The first of the next `fuel` steps that leads to the zero state; `index` steps were taken. -/
def firstZeroFrom (index : Nat) : Nat → State → Option Nat
  | 0, _ => none
  | fuel + 1, s => if s.next.isZero then some (index + 1) else firstZeroFrom (index + 1) fuel s.next

/-- The first of the given number of steps after which the state is zero; step zero is the state
    itself. -/
def firstZero (s : State) (steps : Int) : Option Nat :=
  if s.isZero then some 0 else firstZeroFrom 0 steps.toNat s

/-- The first of the next `fuel` outputs that differs; `index` outputs were equal. -/
def firstDifferenceFrom (index : Nat) : Nat → State → State → Option Nat
  | 0, _, _ => none
  | fuel + 1, a, b =>
    if a.output = b.output then firstDifferenceFrom (index + 1) fuel a.next b.next else some index

/-- The first of the given number of outputs in which two states differ. -/
def firstDifference (a b : State) (limit : Int) : Option Nat :=
  firstDifferenceFrom 0 limit.toNat a b

/-- The first step at which the state of a seed is zero. -/
def firstZeroState (seed steps : Int) : Option Nat :=
  firstZero (State.ofSeed seed) steps

/-- The first output in which two seeds differ. -/
def firstDivergence (a b limit : Int) : Option Nat :=
  firstDifference (State.ofSeed a) (State.ofSeed b) limit

/-- Which seeds lead to a zero state within a number of steps, in lanes. -/
def zeroStates (seeds : List Int) (steps : Int) : List Bool :=
  let lanes := Lanes.ofSeeds seeds
  (Lanes.markZero steps.toNat lanes lanes.zeroRows).toList

/-- At which positions two rows of seeds give equal first outputs, if the rows are equally long. -/
def firstOutputCollisions? (a b : List Int) : Option (List Bool) :=
  if a.length = b.length then
    some (List.zipWith (· == ·) (Lanes.ofSeeds a).output.toList (Lanes.ofSeeds b).output.toList)
  else none

/-- Two equal states never part. -/
theorem firstDifferenceFrom_self (index fuel : Nat) (s : State) :
    firstDifferenceFrom index fuel s s = none := by
  induction fuel generalizing index s with
  | zero => rfl
  | succ fuel ih => simp [firstDifferenceFrom, ih]

end SeedStream.Scan
