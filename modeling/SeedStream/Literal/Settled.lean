import SeedStream.Literal.Members

/-!
# Settled literals

A literal as it is written becomes a value when its sets and fields are settled: of two equal members
one stays, and of two fields with equal keys the first key and the last value stay. Lists, sets and
fields change, and are neither members nor keys.
-/

namespace SeedStream.Literal

mutual

/-- The kind within a literal that keeps it from being a key or a member. -/
def unfit? : Literal → Option Kind
  | list _ => some .list
  | set _ => some .set
  | fields _ => some .object
  | row xs => unfitItem? xs
  | _ => none

/-- The first kind within items that keeps them from being keys or members. -/
def unfitItem? : List Literal → Option Kind
  | [] => none
  | x :: rest => (unfit? x).orElse fun _ => unfitItem? rest

end

/-- A literal may be a key or a member. -/
def checkKey (x : Literal) : Except Failure Unit :=
  match x.unfit? with
  | some k => .error (.kind (.unhashable k))
  | none => .ok ()

/-- Add a member to those of a set. -/
def addMember (x : Literal) (done : List Literal) : List Literal :=
  if done.any fun y => same y x then done else done ++ [x]

/-- Set a field: an equal key that is there stays and has the new value. -/
def putField (k x : Literal) : List (Literal × Literal) → List (Literal × Literal)
  | [] => [(k, x)]
  | (j, y) :: rest => if same j k then (j, x) :: rest else (j, y) :: putField k x rest

mutual

/-- The value of a literal as it is written. -/
def settle : Literal → Except Failure Literal
  | row xs => (settleItems xs).map row
  | list xs => (settleItems xs).map list
  | set xs => (settleMembers [] xs).map fun members => set (inPlaces members)
  | fields fs => (settleFields [] fs).map fields
  | x => .ok x

/-- The values of items. -/
def settleItems : List Literal → Except Failure (List Literal)
  | [] => .ok []
  | x :: rest => do
    let x ← settle x
    let rest ← settleItems rest
    return x :: rest

/-- The members of a set, besides those that were found before. -/
def settleMembers (done : List Literal) : List Literal → Except Failure (List Literal)
  | [] => .ok done
  | x :: rest => do
    let x ← settle x
    checkKey x
    settleMembers (addMember x done) rest

/-- The fields in braces, besides those that were found before. -/
def settleFields (done : List (Literal × Literal)) :
    List (Literal × Literal) → Except Failure (List (Literal × Literal))
  | [] => .ok done
  | (k, x) :: rest => do
    let k ← settle k
    let x ← settle x
    checkKey k
    settleFields (putField k x done) rest

end

end SeedStream.Literal
