import SeedStream.Double.Literal
import SeedStream.Failure
import SeedStream.Value

/-!
# Arguments

How a value is taken as what an operation needs: as bits, as an index, as an integer that a text or
a double stands for, as a double, as items, or as a machine number. Each way has its own refusals.
A truth value is the integer zero or one wherever an integer is wanted.
-/

namespace SeedStream.Value

/-- The integer that an integer or a truth value is. -/
def integer? : Value → Option Int
  | bool b => some (if b then 1 else 0)
  | int i => some i
  | _ => none

/-- The value as the bits of an integer. -/
def asBits (v : Value) : Except Failure Int :=
  match v.integer? with
  | some i => .ok i
  | none => .error (.kind (.operands .bitAnd v.kind .int))

/-- The value as the bits of an integer that are changed in place. -/
def asOwnBits (v : Value) : Except Failure Int :=
  match v.integer? with
  | some i => .ok i
  | none => .error (.kind (.operands .bitAndAssign v.kind .int))

/-- The value as a number of places to shift by. -/
def asShift (v : Value) : Except Failure Int :=
  match v.integer? with
  | some i => .ok i
  | none => .error (.kind (.operands .shiftLeft .int v.kind))

/-- The value as an index. -/
def asIndex (v : Value) : Except Failure Int :=
  match v.integer? with
  | some i => .ok i
  | none => .error (.kind (.index v.kind))

/-- The integer that a text holds. -/
def integerOfText (spelling : Integer.Spelling) (t : Text) : Except Failure Int :=
  match Integer.parse spelling t.chars with
  | .ok i => .ok i
  | .error .malformed => .error (.value (.integerText spelling.base t))
  | .error (.tooLong digits) => .error (.value (.longInteger digits))

/-- A double without its places. -/
def integerOfReal (x : Float) : Except Failure Int :=
  match Double.parts x with
  | .finite negative m q => .ok (Double.truncate negative m q)
  | .infinite _ => .error (.range .infinity)
  | .nan => .error (.value .noNumber)

/-- The value made an integer: a text is read, a double loses its places. -/
def toInteger (v : Value) : Except Failure Int :=
  match v with
  | text t => integerOfText .plain t
  | real x => integerOfReal x
  | bool b => .ok (if b then 1 else 0)
  | int i => .ok i
  | _ => .error (.kind (.integer v.kind))

/-- The value made a double. -/
def toReal (v : Value) : Except Failure Float :=
  match v with
  | text t =>
    match Double.parse? t.chars with
    | some x => .ok x
    | none => .error (.value (.realText t))
  | real x => .ok x
  | bool b => .ok (if b then 1.0 else 0.0)
  | int i =>
    match Double.ofInt? i with
    | some x => .ok x
    | none => .error (.range .real)
  | _ => .error (.kind (.real v.kind))

/-- The items of a value: those of a list, the letters of a text, the names of an object. -/
def items (v : Value) : Except Failure (List Value) :=
  match v with
  | list xs => .ok xs
  | text t => .ok (t.map fun l => text [l])
  | object fields => .ok (fields.map fun f => text f.1)
  | _ => .error (.kind (.items v.kind))

/-- The items of a value that has a number of them. -/
def sizedItems (v : Value) : Except Failure (List Value) :=
  match v.items with
  | .ok xs => .ok xs
  | .error _ => .error (.kind (.length v.kind))

/-- An integer that 64 bits hold, with or without a sign. -/
def isLong (i : Int) : Bool :=
  -0x8000000000000000 ≤ i && i < 0x10000000000000000

/-- The value as an integer of 64 bits with a sign. -/
def asLong (v : Value) : Except Failure Int := do
  let i ← v.toInteger
  if -0x8000000000000000 ≤ i ∧ i < 0x8000000000000000 then .ok i else .error (.range .long)

/-- The value as a number of 32 bits without a sign. -/
def asWordNumber (v : Value) : Except Failure Int := do
  let i ← v.toInteger
  if 0 ≤ i ∧ i < 0x100000000 then .ok i
  else if isLong i then .error (.range (.number i "uint32"))
  else .error (.range .long)

/-- How a number compares with an integer; what is no number, as not-a-number is not, has no order. -/
def compareInt? (v : Value) (i : Int) : Option Ordering :=
  match v with
  | real x =>
    match Double.parts x with
    | .finite negative m q => some (Double.compareInt negative m q i)
    | .infinite negative => some (if negative then .lt else .gt)
    | .nan => none
  | _ => v.integer?.map (compare · i)

/-- The value is a number. -/
def isNumber : Value → Bool
  | bool _ => true
  | int _ => true
  | real _ => true
  | _ => false

mutual

/-- The values that a nested list holds, from left to right. -/
def leaves : Value → List Value
  | list xs => leavesOfItems xs
  | v => [v]

/-- The values that the items of a list hold, from left to right. -/
def leavesOfItems : List Value → List Value
  | [] => []
  | v :: rest => leaves v ++ leavesOfItems rest

end

mutual

/-- The number of lists that lie within one another. -/
def depth : Value → Nat
  | list xs => depthOfItems xs + 1
  | _ => 0

/-- The greatest depth of an item. -/
def depthOfItems : List Value → Nat
  | [] => 0
  | v :: rest => max (depth v) (depthOfItems rest)

end

/-- The values of a nested list that has no more levels than an array has dimensions. -/
def row (v : Value) : Except Failure (List Value) :=
  if maxDimensions < v.depth then .error (.value .nesting) else .ok v.leaves

mutual

/-- Every integer in the value is short enough to be written. -/
def isWritable : Value → Bool
  | int i => Integer.isWritable i
  | list items => areWritable items
  | object fields => fieldsAreWritable fields
  | _ => true

/-- Every integer in the items is short enough to be written. -/
def areWritable : List Value → Bool
  | [] => true
  | v :: rest => isWritable v && areWritable rest

/-- Every integer in the fields is short enough to be written. -/
def fieldsAreWritable : List (Text × Value) → Bool
  | [] => true
  | (_, v) :: rest => isWritable v && fieldsAreWritable rest

end

/-- The plain text of a value that can be written. -/
def plainText (v : Value) : Except Failure Text :=
  if v.isWritable then .ok v.plain else .error (.value .longNumeral)

theorem plainText_text (t : Text) : (text t).plainText = .ok t := rfl

/-- If each item of a row can be taken, so can the row. -/
theorem mapM_map_eq_ok {α β γ : Type} {given : α → γ} {take : γ → Except Failure β} {taken : α → β}
    {items : List α} (each : ∀ a ∈ items, take (given a) = .ok (taken a)) :
    (items.map given).mapM take = .ok (items.map taken) := by
  induction items with
  | nil => rfl
  | cons a rest ih =>
    obtain ⟨first, others⟩ := List.forall_mem_cons.mp each
    rw [List.map_cons, List.mapM_cons, first, ih others]
    rfl

theorem asBits_int (i : Int) : (int i).asBits = .ok i := rfl

theorem asIndex_int (i : Int) : (int i).asIndex = .ok i := rfl

theorem toInteger_int (i : Int) : (int i).toInteger = .ok i := rfl

/-- An integer that 32 bits hold without a sign is itself as a number. -/
theorem asWordNumber_int {i : Int} (fits : 0 ≤ i ∧ i < 0x100000000) : (int i).asWordNumber = .ok i := by
  rw [asWordNumber, toInteger_int]
  exact if_pos fits

/-- A value has bits exactly if it is an index. -/
theorem asBits_eq_ok_iff {v : Value} {i : Int} : v.asBits = .ok i ↔ v.asIndex = .ok i := by
  unfold asBits asIndex
  cases v.integer? <;> simp

/-- The number of 32 bits lies in its range. -/
theorem asWordNumber_range {v : Value} {i : Int} (h : v.asWordNumber = .ok i) : 0 ≤ i ∧ i < 0x100000000 := by
  unfold asWordNumber at h
  cases hv : v.toInteger with
  | error e => rw [hv] at h; simp [bind, Except.bind] at h
  | ok j =>
    rw [hv] at h
    simp only [bind, Except.bind] at h
    split at h
    · simp_all
    · split at h <;> simp at h

end SeedStream.Value
