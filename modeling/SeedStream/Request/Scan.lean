import SeedStream.Request.Core
import SeedStream.Scan

/-!
# Requests for scans

Scans with arguments as a caller gives them. Seeds are looked at before the number of steps.
-/

namespace SeedStream.Request

/-- The first step at which the state of a seed is zero. A zero state needs no steps. -/
def firstZeroState (seed steps : Value) : Except Failure (Option Nat) := do
  let s ← seededState seed
  if s.isZero then return some 0
  match steps with
  | .bool _ | .int _ => return Scan.firstZero s (← steps.asIndex)
  | .real _ => .error (.kind (.index .real))
  | .text _ | .list _ => .error (.kind (.concatenation steps.kind .int))
  | _ => .error (.kind (.operands .add steps.kind .int))

/-- Which seeds of a row lead to a zero state. -/
def zeroStates (seeds steps : Value) : Except Failure (List Bool) := do
  let seeds ← seedRow seeds
  return Scan.zeroStates seeds (← steps.asIndex)

/-- The first output in which two seeds differ. -/
def firstDivergence (a b limit : Value) : Except Failure (Option Nat) := do
  let a ← seededState a
  let b ← seededState b
  return Scan.firstDifference a b (← limit.asIndex)

/-- At which positions two rows of seeds give equal first outputs. -/
def firstOutputCollisions (a b : Value) : Except Failure (List Bool) := do
  let a ← seedRow a
  let b ← seedRow b
  match Scan.firstOutputCollisions? a b with
  | some r => .ok r
  | none => .error (.value .unequalSeeds)

end SeedStream.Request
