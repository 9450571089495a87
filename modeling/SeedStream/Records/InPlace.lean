import SeedStream.Records

/-!
# Sorting in place

Sorting as its caller sees it: what it leaves in a buffer, also when it fails. The records are copied out of the
buffer and put in order by a plan, which asks how two of them compare and goes on by the answer. A comparison may
remember what it was asked and may refuse any question. The buffer is written to once, behind the last answer.
-/

namespace SeedStream.Records

/-! ## Plans -/

/-- A comparison that may remember what it was asked. -/
abbrev Comparer (σ : Type) := List UInt8 → List UInt8 → σ → Except Failure Int × σ

/-- A comparison that remembers nothing. -/
def Comparison.forgetful (compare : Comparison) : Comparer Unit :=
  fun left right _ => (compare left right, ())

/-- A way to a result by questions of how two records compare. -/
inductive Plan (α : Type)
  | done (a : α)
  | ask (left right : List UInt8) (next : Int → Plan α)

namespace Plan

variable {α β σ : Type}

/-- Go on from the result of a plan. -/
def andThen (more : α → Plan β) : Plan α → Plan β
  | done a => more a
  | ask left right next => ask left right fun sign => andThen more (next sign)

/-- Follow a plan to its result or to the first question that is refused. -/
def run (compare : Comparer σ) : Plan α → σ → Except Failure α × σ
  | done a, memory => (.ok a, memory)
  | ask left right next, memory =>
    match compare left right memory with
    | (.error e, memory) => (.error e, memory)
    | (.ok sign, memory) => run compare (next sign) memory

end Plan

/-- A way to put records in order. -/
abbrev Method := List (List UInt8) → Plan (List (List UInt8))

/-- Ask where a record belongs in a sorted list, behind every record that it does not come before; `before` holds
    those that it is known to belong behind, last first. -/
def inserting (r : List UInt8) (before : List (List UInt8)) : List (List UInt8) → Plan (List (List UInt8))
  | [] => .done (before.reverse ++ [r])
  | s :: rest => .ask r s fun sign =>
    if sign < 0 then .done (before.reverse ++ r :: s :: rest) else inserting r (s :: before) rest

/-- Ask where records belong one after another. -/
def insertingAll (sorted : List (List UInt8)) : Method
  | [] => .done sorted
  | r :: rest => (inserting r [] sorted).andThen fun sorted => insertingAll sorted rest

/-- Records are put in order by putting them one after another into a sorted list. -/
def insertion : Method :=
  insertingAll []

/-! ## Buffers -/

/-- The part of a buffer from one place up to another, and leave to write to it. -/
structure View where
  access : Access
  start : Nat
  stop : Nat

namespace View

/-- The part of a buffer between bounds, which are integers or left open. -/
def between (access : Access) (bytes : List UInt8) (start stop : Option Int) : View where
  access := access
  start := (start.map (boundary bytes.length)).getD 0
  stop := (stop.map (boundary bytes.length)).getD bytes.length

/-- The bytes that are viewed. -/
def read (v : View) (bytes : List UInt8) : List UInt8 :=
  (bytes.take v.stop).drop v.start

/-- The buffer with other bytes at the start of the view, all of them at once. -/
def write (v : View) (data bytes : List UInt8) : Except Failure (List UInt8) :=
  v.access.check.map fun _ => bytes.take v.start ++ data ++ bytes.drop (v.start + data.length)

end View

/-! ## Sorting -/

/-- What sorting can change: the bytes of the buffer and what the comparison remembers. -/
structure World (σ : Type) where
  bytes : List UInt8
  memory : σ

/-- The number and the size of the records of a layout, as a caller gives it, that a buffer has room for. A number
    of records that is no integer is below two if it is let through. -/
def recordsOf (length : Nat) (count size : Value) : Except Failure (Nat × Nat) := do
  checkLayout count size
  match count.integer?, size.integer? with
  | some n, some k =>
    if (length : Int) < n * k then .error (.value (.recordSpan count.plain size.plain length))
    else .ok (n.toNat, k.toNat)
  | _, _ => (realLayout length count size).map fun _ => (0, 1)

variable {σ : Type}

/-- Put the first `n` records of `k` bytes of a view in order. -/
def reorder (method : Method) (view : View) (n k : Nat) (compare : Comparer σ) (w : World σ) :
    Except Failure Unit × World σ :=
  match (method (split k n (view.read w.bytes))).run compare w.memory with
  | (.error e, memory) => (.error e, ⟨w.bytes, memory⟩)
  | (.ok records, memory) =>
    match view.write records.flatten w.bytes with
    | .error e => (.error e, ⟨w.bytes, memory⟩)
    | .ok bytes => (.ok (), ⟨bytes, memory⟩)

/-- Put the records at the start of a view of a buffer in order. Fewer than two are in order as they are. -/
def sortInPlace (method : Method) (view : View) (count size : Value) (compare : Comparer σ) (w : World σ) :
    Except Failure Unit × World σ :=
  match recordsOf (view.read w.bytes).length count size with
  | .error e => (.error e, w)
  | .ok (n, k) => if n < 2 then (.ok (), w) else reorder method view n k compare w

end SeedStream.Records
