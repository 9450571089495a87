import SeedStream.Literal.Basic

/-!
# The order of literals

Numbers, texts, bytes and rows have an order, each among themselves; other pairs have none, and
sorting fails at the first such pair that it compares. Sorting takes the longest run at the start
that goes up, or turns round one that goes down, and puts what follows into it one by one, each
behind those that it does not come before.
-/

namespace SeedStream.Literal

/-- A row of numbers comes before another one in the order of words in a dictionary. -/
def numbersPrecede : List Nat → List Nat → Bool
  | _, [] => false
  | [], _ :: _ => true
  | a :: as, b :: bs => if a = b then numbersPrecede as bs else a < b

/-- One literal that is no row comes before another one. -/
def leafPrecedes (a b : Literal) : Except Failure Bool :=
  match a, b with
  | complex .., _ => .error (.kind (.order .less a.kind b.kind))
  | _, complex .. => .error (.kind (.order .less a.kind b.kind))
  | text s, text t => .ok (numbersPrecede (s.map Letter.toNat) (t.map Letter.toNat))
  | bytes xs, bytes ys => .ok (numbersPrecede (xs.map UInt8.toNat) (ys.map UInt8.toNat))
  | _, _ =>
    match a.number?, b.number? with
    | some (x, _), some (y, _) => .ok (compareReal? x y == some .lt)
    | _, _ => .error (.kind (.order .less a.kind b.kind))

mutual

/-- One literal comes before another one. -/
def precedes : Literal → Literal → Except Failure Bool
  | row xs, row ys => rowPrecedes xs ys
  | a, b => leafPrecedes a b

/-- One row comes before another one: the first items that differ decide, or else the lengths. -/
def rowPrecedes : List Literal → List Literal → Except Failure Bool
  | _, [] => .ok false
  | [], _ :: _ => .ok true
  | x :: xs, y :: ys => if same x y then rowPrecedes xs ys else precedes x y

end

/-- How many literals carry on a run that goes down or up from `last`. -/
def runBehind (down : Bool) (last : Literal) : List Literal → Except Failure Nat
  | [] => .ok 0
  | x :: rest => do
    if (← precedes x last) = down then return (← runBehind down x rest) + 1 else return 0

/-- The run at the start, in rising order, and what follows it. -/
def firstRun : List Literal → Except Failure (List Literal × List Literal)
  | x :: y :: rest => do
    let down ← precedes y x
    let more ← runBehind down y rest
    let run := x :: y :: rest.take more
    return (if down then run.reverse else run, rest.drop more)
  | short => .ok (short, [])

/-- The place of a literal among sorted ones between two places: behind all that it does not come
    before. -/
def placeBetween (x : Literal) (sorted : Array Literal) (low high : Nat) : Except Failure Nat :=
  if h : low < high then do
    let middle := low + (high - low) / 2
    if ← precedes x (sorted.getD middle null) then placeBetween x sorted low middle
    else placeBetween x sorted (middle + 1) high
  else .ok low
termination_by high - low

/-- Put literals one after another into a sorted row. -/
def insertAll (sorted : List Literal) : List Literal → Except Failure (List Literal)
  | [] => .ok sorted
  | x :: rest => do
    let place ← placeBetween x sorted.toArray 0 sorted.length
    insertAll (sorted.take place ++ x :: sorted.drop place) rest

/-- Literals in rising order. -/
def sorted (xs : List Literal) : Except Failure (List Literal) := do
  let (run, rest) ← firstRun xs
  insertAll run rest

end SeedStream.Literal
