import SeedStream.Literal.Basic

/-!
# The members of sets

The order in which a set holds its members. A set has a number of places that is a power of two, and
puts a member into the first free place on a trail that the hash of the member fixes. A set of whose
places three fifths are taken moves to more places. Numbers, rows of them and the empty texts have
hashes that never change; a set with any other member is left as it is written.
-/

namespace SeedStream.Literal

/-! ## Hashes -/

/-- Numbers that leave the same remainder by this have the same hash. -/
def hashModulus : Nat := 0x1fffffffffffffff

/-- A hash is never the greatest machine word. -/
def properHash (h : UInt64) : UInt64 :=
  if h + 1 = 0 then h - 1 else h

/-- The hash of a whole number of a sign. -/
def wholeHash (negative : Bool) (n : Nat) : UInt64 :=
  let h := UInt64.ofNat (n % hashModulus)
  properHash (if negative then 0 - h else h)

/-- The hash of a double: that of the whole number which leaves the same remainder, since halving
    is the same as doubling sixty times. -/
def realHash? (x : Float) : Option UInt64 :=
  match Double.parts x with
  | .finite negative m e => some (wholeHash negative (m * Nat.pow 2 (e.emod 61).toNat))
  | .infinite negative => some (wholeHash negative 314159)
  | .nan => none

/-- Put the hash of an item of a row to that of the items before it. -/
def rowStep (sum item : UInt64) : UInt64 :=
  let h := sum + item * 14029467366897019727
  ((h <<< 31) ||| (h >>> 33)) * 11400714785074694791

/-- The hash of a row of so many items before their number is counted in. -/
def rowEnd (sum : UInt64) (count : Nat) : UInt64 :=
  let h := sum + (UInt64.ofNat count ^^^ (2870177450012600261 ^^^ 3527539))
  if h + 1 = 0 then 1546275796 else h

mutual

/-- The hash of a literal, if it never changes. -/
def hash? : Literal → Option UInt64
  | bool b => some (if b then 1 else 0)
  | int i => some (wholeHash (i < 0) i.natAbs)
  | real x => realHash? x
  | complex re im => do return properHash ((← realHash? re) + 1000003 * (← realHash? im))
  | text t => if t.isEmpty then some 0 else none
  | bytes bs => if bs.isEmpty then some 0 else none
  | row xs => do return rowEnd (← rowHash? 2870177450012600261 xs) xs.length
  | _ => none

/-- The hash of the items of a row behind others. -/
def rowHash? (sum : UInt64) : List Literal → Option UInt64
  | [] => some sum
  | x :: rest => do rowHash? (rowStep sum (← hash? x)) rest

end

/-! ## Places -/

/-- A member with its hash. -/
abbrev Member := UInt64 × Literal

/-- The places of a set, free ones and taken ones. -/
abbrev Places := Array (Option Member)

/-- The least number of places. -/
def leastPlaces : Nat := 8

/-- The number of places behind a place that are tried with it, unless they are too few. -/
def neighbours : Nat := 9

/-- The first free place on the trail that has come to a place; `rest` is what is left of the hash,
    and `fuel` exceeds the number of places by twelve, the number of times that it is cut. -/
def freePlace? (places : Places) : Nat → Nat → Nat → Option Nat
  | 0, _, _ => none
  | fuel + 1, rest, place =>
    let tried := if place + neighbours < places.size then neighbours + 1 else 1
    match (List.range tried).find? fun k => (places.getD (place + k) none).isNone with
    | some k => some (place + k)
    | none =>
      let rest := rest / 32
      freePlace? places fuel rest ((5 * place + 1 + rest) % places.size)

/-- Put a member into its place. -/
def put (places : Places) (m : Member) : Places :=
  match freePlace? places (places.size + 13) m.1.toNat (m.1.toNat % places.size) with
  | some place => places.setIfInBounds place (some m)
  | none => places

/-- Free places for more than a number of members. -/
def roomFor (n : Nat) : Places :=
  Array.replicate (max leastPlaces (Nat.pow 2 (n.log2 + 1))) none

/-- The places of a set with `count` members, moved if they are too few. -/
def widened (places : Places) (count : Nat) : Places :=
  if 5 * count < 3 * (places.size - 1) then places
  else places.foldl (fun wider m? => m?.elim wider (put wider)) (roomFor (4 * count))

/-- Put members one after another into the places of a set that has `count` members. -/
def putAll (places : Places) (count : Nat) : List Member → Places
  | [] => places
  | m :: rest => putAll (widened (put places m) (count + 1)) (count + 1) rest

/-- Different members in the order in which a set holds them. -/
def inPlaces (xs : List Literal) : List Literal :=
  match xs.mapM fun x => (hash? x).map fun h => (h, x) with
  | some members =>
    (putAll (roomFor 0) 0 members).toList.filterMap fun m? => m?.map (·.2)
  | none => xs

end SeedStream.Literal
