import SeedStream.Argument

/-!
# Shapes

The lengths of the dimensions of an array. A row of items can be given a shape whose lengths
multiply to their number; one length may be left open by a negative number and is then found from
the others.
-/

namespace SeedStream.Shape

/-- The number of items of an array. -/
def size (lengths : List Nat) : Nat :=
  lengths.foldl (· * ·) 1

/-- The text of a row between brackets; a row of one has a comma behind it. -/
def bracketed (separator : String) (texts : List String) : String :=
  match texts with
  | [t] => "(" ++ t ++ ",)"
  | _ => "(" ++ separator.intercalate texts ++ ")"

/-- The text of lengths. -/
def text (lengths : List Int) : String :=
  bracketed ", " (lengths.map Numeral.ofInt)

/-- The text of lengths without blanks, where open ones at the start are left out and the others
    have a name. -/
def openText (lengths : List Int) : String :=
  let shown := lengths.dropWhile (· < 0)
  let texts := shown.map fun k => if k < 0 then "newaxis" else Numeral.ofInt k
  if lengths.length = 1 then bracketed "," texts else "(" ++ ",".intercalate texts ++ ")"

/-- A length that a machine word holds. -/
def isLength (i : Int) : Bool :=
  -arrayLimit ≤ i && i < arrayLimit

/-- The integer that a literal length is; a truth value is none. -/
def lengthOf (v : Value) : Except Failure Int :=
  match v with
  | .bool _ => .error (.kind .truthLength)
  | .int i => if isLength i then .ok i else .error (.value .dimension)
  | _ => .error (.kind (.index v.kind))

/-- The lengths of a row of values. -/
def lengthsOf (values : List Value) : Except Failure (List Int) :=
  if maxDimensions < values.length then .error (.value (.dimensions values.length))
  else values.mapM lengthOf

/-- The shape that a value asks for, if it asks for one: a row of lengths or a single one. -/
def ofValue (v : Value) : Except Failure (Option (List Int)) :=
  match v with
  | .null => .ok none
  | .list values => (lengthsOf values).map some
  | .int i => (lengthOf (.int i)).map fun i => some [i]
  | .text t => (lengthsOf (t.map fun l => .text [l])).map some
  | _ => .error (.kind (.size v.display))

/-- The product of the lengths that are given, and whether one is left open. Nothing comes of a
    product that no machine word holds. -/
def known (count : Nat) (lengths : List Int) : Except Failure (Nat × Bool) :=
  go 1 false lengths
where
  go (product : Nat) (isOpen : Bool) : List Int → Except Failure (Nat × Bool)
    | [] => .ok (product, isOpen)
    | k :: rest =>
      if k < 0 then
        if isOpen then .error (.value .openLengths) else go product true rest
      else if arrayLimit ≤ product * k.toNat then
        .error (.value (.reshape count (openText lengths)))
      else go (product * k.toNat) isOpen rest

/-- The lengths that a row of `count` items has in a shape. -/
def fill (count : Nat) (lengths : List Int) : Except Failure (List Nat) := do
  let (product, isOpen) ← known count lengths
  let refused : Except Failure (List Nat) := .error (.value (.reshape count (openText lengths)))
  if isOpen then
    if product = 0 ∨ count % product ≠ 0 then refused
    else .ok (lengths.map fun k => if k < 0 then count / product else k.toNat)
  else if product = count then .ok (lengths.map Int.toNat)
  else refused

end SeedStream.Shape
