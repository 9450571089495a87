import SeedStream.Item.Description
import SeedStream.Lanes

/-!
# Requests to the core generator

Words, states and lanes from arguments as a caller gives them. Nested lists of seeds count as one
row, and their numbers must fit 64 bits; a single seed may have any size.
-/

namespace SeedStream.Request

/-- The word of an argument. -/
def word (value : Value) : Except Failure Word :=
  value.asBits.map Word.ofInt

/-- The most digits that a number in memory can have. -/
def maxNumberDigits : Nat := 2305843009213693945

/-- The bits of a digit of a number in memory, which has four bytes. -/
def digitBits : Nat := 30

/-- The number of digits of a word that is moved to the left. -/
def shiftedDigits (w : Word) (k : Nat) : Nat :=
  (if w.toNat < Nat.pow 2 digitBits then 1 else 2) + k / digitBits +
    if k % digitBits = 0 then 0 else 1

/-- A word rotated to the left by zero to thirty-two places. A shift beyond that would go to the
    right by less than nothing, unless the word shifted to the left is no number already or fills
    all memory. -/
def rotated [Memory] (value shift : Value) : Except Failure Word := do
  let w := Word.ofInt (← value.asOwnBits)
  let k ← shift.asShift
  let digits := shiftedDigits w k.toNat
  if 0 ≤ k ∧ k ≤ 32 then .ok (Word.rotateLeft w (Word.ofInt k))
  else if k < 0 ∨ w = 0 then .error (.value .negativeShift)
  else if maxNumberDigits < digits then .error (.range .shift)
  else if memoryLimit ≤ 4 * digits then .error (.memory .other)
  else .error (.value .negativeShift)

/-- The state of four words, or the fault that another number of them is. -/
def stateOfItems (fault : Nat → ValueFault) (items : List Value) : Except Failure State :=
  match items with
  | [a, b, c, d] => do
    let a ← a.toInteger
    let b ← b.toInteger
    let c ← c.toInteger
    let d ← d.toInteger
    .ok ⟨Word.ofInt a, Word.ofInt b, Word.ofInt c, Word.ofInt d⟩
  | _ => .error (.value (fault items.length))

/-- A new state of given words. -/
def state (words : Value) : Except Failure State := do
  stateOfItems .stateSize (← words.sizedItems)

/-- The output of a state of given words and the state after it. -/
def nextState (words : Value) : Except Failure (Word × State) := do
  return (← stateOfItems .stateSize (← words.items)).step

/-- The state that replaces that of a generator. -/
def replacedState (words : Value) : Except Failure State := do
  stateOfItems .wordCount (← words.sizedItems)

/-- The state that a seed expands to. -/
def seededState (seed : Value) : Except Failure State :=
  seed.asBits.map State.ofSeed

/-- The seeds of a row. -/
def seedRow (seeds : Value) : Except Failure (List Int) := do
  (← seeds.row).mapM Value.asLong

/-- The states that a row of seeds expands to. -/
def seededRows (seeds : Value) : Except Failure (List State) :=
  (seedRow seeds).map fun s => (Lanes.ofSeeds s).rows

/-- The lengths of a nested list from the outside in. -/
def shapeOf : Nat → Value → List Nat
  | 0, _ => []
  | depth + 1, .list items =>
    items.length :: match items with
      | [] => []
      | v :: _ => shapeOf depth v
  | _ + 1, _ => []

/-- Cut a row of words into states of four words each. -/
def statesOf : List Word → List State
  | a :: b :: c :: d :: rest => ⟨a, b, c, d⟩ :: statesOf rest
  | _ => []

/-- The type that a value names, if it names one. A list would have to list fields. -/
def itemType? (v : Value) : Except Failure (Option ItemType) :=
  match v with
  | .null => .ok none
  | .text t => (ItemType.ofText t).map some
  | .list [] => (ItemType.ofFields []).map some
  | .list (x :: _) => .error (.kind (.itemField x.display))
  | _ => .error (.kind (.itemValue v.display))

/-- An integer fits a type of numbers. -/
def checkInteger (t : NumberType) (i : Int) : Except Failure Unit :=
  let span : Int := Nat.pow 2 (8 * t.size)
  let isSigned := t.kind = .integer
  let low := if isSigned then -(span / 2) else 0
  let isMachineInt := if isSigned then Shape.isLength i else Value.isLong i
  if low ≤ i ∧ i < low + span then .ok ()
  else if isMachineInt then
    .error (.range (.number i (String.ofList (ItemType.number { t with bigFirst := false }).name)))
  else .error (.range .long)

/-- A value can be a number of a type. Nothing is a real number too, namely none. -/
def checkNumber (t : NumberType) (v : Value) : Except Failure Unit :=
  match t.kind, v with
  | .bool, _ => .ok ()
  | .natural, _ => do checkInteger t (← v.toInteger)
  | .integer, _ => do checkInteger t (← v.toInteger)
  | _, .null => .ok ()
  | _, _ => v.toReal.map fun _ => ()

/-- A value can be a moment or a span of time. A moment needs a unit, and nothing is no moment. -/
def checkTime (isSpan : Bool) (unit : String) (v : Value) : Except Failure Unit :=
  match v.integer?, v with
  | some i, _ =>
    if !isSpan && unit.isEmpty then .error (.value .looseMoment)
    else if Shape.isLength i then .ok ()
    else .error (.range .machineWord)
  | none, .null => .ok ()
  | none, _ => .error (.value (.time isSpan))

mutual

/-- A value can be an item of a type, and all items of an item that has several. -/
def checkItem (v : Value) : ItemType → Except Failure Unit
  | .number t => checkNumber t v
  | .time isSpan unit _ => checkTime isSpan unit v
  | .text .blank n _ => .error (.kind (.bytes (0 < n) v.kind))
  | .array base _ => checkItem v base
  | .record fields _ => checkFields v fields
  | _ => .ok ()

/-- A value can be an item of each of some fields. -/
def checkFields (v : Value) : List (FieldHead × ItemType) → Except Failure Unit
  | [] => .ok ()
  | (_, t) :: rest => do
    checkItem v t
    checkFields v rest

end

/-- Items of the type are words. -/
def isWordType : ItemType → Bool
  | .number t => t = ⟨.natural, 4, false⟩
  | _ => false

/-- The states of an array that has rows of four words: the array must hold words and have two
    dimensions, of which the second is four. -/
def laneStates (itemType array shape : Value) : Except Failure (List State) := do
  let t? ← itemType? itemType
  let values ← array.row
  t?.forM fun t => values.forM (checkItem · t)
  let lengths ←
    match ← Shape.ofValue shape with
    | none => .ok (shapeOf maxDimensions array)
    | some lengths => Shape.fill values.length lengths
  match t?.map isWordType, lengths with
  | some true, [_, 4] => return statesOf ((← values.mapM Value.asWordNumber).map Word.ofInt)
  | _, _ => .error (.value .laneShape)

/-- Run lanes for a number of steps: the outputs of each and the states after them. -/
def runLanes (states : List State) (steps : Nat) : List (List Word) × List State :=
  let (outputs, lanes) := (Lanes.ofRows states).run steps
  (outputs.map Vector.toList, lanes.rows)

end SeedStream.Request
