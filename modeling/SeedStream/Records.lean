import SeedStream.Argument

/-!
# Sorting records

Records of one size at the start of a buffer are put in order by a comparison that may fail. Equal
records keep their order, and what lies behind the records is left alone. The buffer is written
once, after all comparisons, so a failure leaves it as it was; fewer than two records need neither
a comparison nor leave to write.
-/

namespace SeedStream.Records

/-- A comparison of records: negative, zero or positive, or a failure. -/
abbrev Comparison := List UInt8 → List UInt8 → Except Failure Int

/-- Whether a buffer may be written to. -/
inductive Access
  | writable
  /-- A row of bytes that never changes. -/
  | fixed
  /-- A view without leave to write. -/
  | readOnly
  deriving DecidableEq, Repr

/-- Put a record into a sorted list behind every record that it does not come before. -/
def insert (compare : Comparison) (r : List UInt8) : List (List UInt8) → Except Failure (List (List UInt8))
  | [] => .ok [r]
  | s :: rest => do
    if (← compare r s) < 0 then .ok (r :: s :: rest)
    else
      let sorted ← insert compare r rest
      .ok (s :: sorted)

/-- Put records one after another into a sorted list. -/
def sortOnto (compare : Comparison) (sorted : List (List UInt8)) :
    List (List UInt8) → Except Failure (List (List UInt8))
  | [] => .ok sorted
  | r :: rest => do
    let sorted ← insert compare r sorted
    sortOnto compare sorted rest

/-- The records in order. -/
def sorted (compare : Comparison) (records : List (List UInt8)) :
    Except Failure (List (List UInt8)) :=
  sortOnto compare [] records

/-- The first `count` records of a buffer. -/
def split (size : Nat) : Nat → List UInt8 → List (List UInt8)
  | 0, _ => []
  | count + 1, bytes => bytes.take size :: split size count (bytes.drop size)

/-- The reason why a layout does not fit a buffer, if there is one. -/
def layoutFault? (length : Nat) (count size : Int) : Option ValueFault :=
  if count < 0 ∨ size ≤ 0 then some (.recordLayout (Numeral.signed count) (Numeral.signed size))
  else if (length : Int) < count * size then
    some (.recordSpan (Numeral.signed count) (Numeral.signed size) length)
  else none

/-- Leave to write to a buffer. -/
def Access.check : Access → Except Failure Unit
  | writable => .ok ()
  | fixed => .error (.kind .fixedBytes)
  | readOnly => .error (.kind .readOnlyView)

/-- The buffer with its first `count` records of `size` bytes in order. -/
def sort (access : Access) (bytes : List UInt8) (count size : Int) (compare : Comparison) :
    Except Failure (List UInt8) :=
  match layoutFault? bytes.length count size with
  | some fault => .error (.value fault)
  | none =>
    if count < 2 then .ok bytes
    else do
      let records ← sorted compare (split size.toNat count.toNat bytes)
      access.check
      .ok (records.flatten ++ bytes.drop (count * size).toNat)

/-- The buffer with other bytes in a view of it. -/
def withView (bytes : List UInt8) (start stop : Nat) (viewed : List UInt8) : List UInt8 :=
  bytes.take (min start stop) ++ viewed ++ bytes.drop stop

/-- The buffer with the records at the start of a view in order; the view has the bytes from one
    place up to another. -/
def sortView (access : Access) (bytes : List UInt8) (start stop : Nat) (count size : Int)
    (compare : Comparison) : Except Failure (List UInt8) :=
  (sort access ((bytes.take stop).drop start) count size compare).map (withView bytes start stop)

/-! ## With arguments as a caller gives them -/

/-- The number of items that lie before the bound of a view: a negative bound counts from the end. -/
def boundary (length : Nat) (i : Int) : Nat :=
  if i < 0 then (length + i).toNat else min i.toNat length

/-- How a number compares with an integer for an operator. -/
def ordering (op : Operator) (v : Value) (i : Int) : Except Failure (Option Ordering) :=
  if v.isNumber then .ok (v.compareInt? i) else .error (.kind (.order op v.kind .int))

/-- The layout has no negative number of records and records of at least one byte. -/
def checkLayout (count size : Value) : Except Failure Unit := do
  let refused : Except Failure Unit := .error (.value (.recordLayout count.plain size.plain))
  if (← ordering .less count 0) = some .lt then refused
  else
    match ← ordering .lessOrEqual size 0 with
    | some .lt => refused
    | some .eq => refused
    | _ => .ok ()

/-- Numbers of records and bytes that are no integers: a span may be compared with a buffer, but not
    gone through. -/
def realLayout (length : Nat) (count size : Value) : Except Failure Unit := do
  let span := (← count.toReal) * (← size.toReal)
  if (Value.real span).compareInt? length = some .gt then
    .error (.value (.recordSpan count.plain size.plain length))
  else if count.compareInt? 2 = some .lt then .ok ()
  else .error (.kind (.index .real))

/-- The buffer with its records in order, where `count` and `size` are as a caller gives them. -/
def sortValues (access : Access) (bytes : List UInt8) (count size : Value) (compare : Comparison) :
    Except Failure (List UInt8) := do
  checkLayout count size
  match count.integer?, size.integer? with
  | some n, some k =>
    if (bytes.length : Int) < n * k then
      .error (.value (.recordSpan count.plain size.plain bytes.length))
    else sort access bytes n k compare
  | _, _ => (realLayout bytes.length count size).map fun _ => bytes

/-- The buffer with the records at the start of a view in order, where the bounds of the view are
    integers or left open. -/
def sortViewValues (access : Access) (bytes : List UInt8) (start stop : Option Int)
    (count size : Value) (compare : Comparison) : Except Failure (List UInt8) :=
  let start := (start.map (boundary bytes.length)).getD 0
  let stop := (stop.map (boundary bytes.length)).getD bytes.length
  (sortValues access ((bytes.take stop).drop start) count size compare).map (withView bytes start stop)

theorem length_split (size count : Nat) (bytes : List UInt8) : (split size count bytes).length = count := by
  induction count generalizing bytes with
  | zero => rfl
  | succ count ih => simp [split, ih]

end SeedStream.Records
