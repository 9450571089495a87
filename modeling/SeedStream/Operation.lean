import SeedStream.Argument
import SeedStream.Generator

/-!
# Operations on a generator

The operations that a caller may ask of a generator, with arguments as the caller gives them. An
argument is checked before anything is drawn, so a refused one, such as a number of words that no
memory holds, leaves the generator as it was.
-/

namespace SeedStream

/-- An operation on a generator. -/
inductive Operation
  /-- Choose the mode by a seed. -/
  | setSeed (seed : Value)
  /-- Draw a word. -/
  | next
  /-- Draw a number of words. -/
  | fill (count : Value)
  /-- Draw a number below a bound. -/
  | below (bound : Value)
  /-- Draw a fraction. -/
  | fraction

/-- What an operation answers. -/
inductive Answer
  | nothing
  | word (w : Word)
  | words (ws : List Word)
  | real (x : Float)

namespace Generator

variable [Memory] {σ : Type} [EntropySource σ]

/-- The bytes of a word. -/
def wordSize : Nat := 4

/-- A number of words that there is room for. -/
def roomFor (n : Nat) : Except Failure Nat :=
  let bytes := wordSize * n
  if arrayLimit ≤ bytes then .error (.value .arraySize)
  else if memoryLimit ≤ bytes then
    .error (.memory (.array bytes ("(" ++ Numeral.ofNat n ++ ",)") "uint32"))
  else .ok n

/-- A count of words that the core generator runs: a number that is not negative, and an integer
    proper. -/
def coreCount (count : Value) : Except Failure Nat :=
  if !count.isNumber then .error (.kind (.order .less count.kind .int))
  else if count.compareInt? 0 = some .lt then .error (.value (.negativeCount count.display))
  else
    match count with
    | .int n => if arrayLimit ≤ n then .error (.value .dimension) else roomFor n.toNat
    | _ => .error (.kind (.size count.display))

/-- A count of draws from the native source: a number that is not negative, and an index. -/
def drawCount (count : Value) : Except Failure Nat :=
  if !count.isNumber then .error (.kind (.order .less count.kind .int))
  else if count.compareInt? 0 = some .lt then .error (.value (.negativeCount count.display))
  else do
    let n ← count.asIndex
    if arrayLimit ≤ n then .error (.range .size) else roomFor n.toNat

/-- The count of words for the mode of a generator. -/
def fillCount (mode : Mode) (count : Value) : Except Failure Nat :=
  match mode with
  | .deterministic => coreCount count
  | .native => drawCount count

/-- A bound below which numbers are drawn: an integer, or a positive finite double. -/
inductive Bound
  | whole (n : Nat)
  | real (num den : Nat)

/-- The bound that a value gives: it lies above zero and is at most the number of words. -/
def boundOf (bound : Value) : Except Failure Bound :=
  if !bound.isNumber then .error (.kind (.order .lessOrEqual bound.kind .int))
  else
    let refused : Except Failure Bound := .error (.value (.bound bound.display))
    match bound.compareInt? 0, bound.compareInt? 0x100000000 with
    | some .gt, some .gt => refused
    | some .gt, _ =>
      match bound with
      | .real x =>
        match Double.parts x with
        | .finite _ m q =>
          let (num, den) := Double.sizeRatio m q
          .ok (.real num den)
        | _ => refused
      | _ => bound.asIndex.map fun n => .whole n.toNat
    | _, _ => refused

/-- The largest multiple of a real bound that is no more than the number of words, as a double. -/
def realLimit (num den : Nat) : Float :=
  Double.ofRatio false (0x100000000 * den / num) 1 * Double.ofRatio false num den

/-- A double below a real bound: the remainder of the first word below the limit. -/
def belowReal (num den : Nat) (g : Generator σ) : Option (Except Failure Float × Generator σ) :=
  let limit := Value.real (realLimit num den)
  (drawUntil (fun w => limit.compareInt? w.toNat = some .gt) maxDraws g).map fun r =>
    (r.1.map fun w => Double.ofRatio false (w.toNat * den % num) den, r.2)

/-- Ask for an operation. There is no answer only if a bound accepts no word that is drawn. -/
def perform (op : Operation) (g : Generator σ) : Option (Except Failure Answer × Generator σ) :=
  match op with
  | .setSeed seed =>
    match seed.asIndex with
    | .ok seed => some (.ok .nothing, g.setSeed seed)
    | .error e => some (.error e, g)
  | .next =>
    let (r, g) := g.draw
    some (r.map .word, g)
  | .fill count =>
    match fillCount g.mode count with
    | .ok n =>
      let (r, g) := g.fill n
      some (r.map .words, g)
    | .error e => some (.error e, g)
  | .below bound =>
    match boundOf bound with
    | .ok (.whole n) => (g.below n).map fun r => (r.1.map .word, r.2)
    | .ok (.real num den) => (g.belowReal num den).map fun r => (r.1.map .real, r.2)
    | .error e => some (.error e, g)
  | .fraction =>
    let (r, g) := g.fraction
    some (r.map fun f => .real f.toDouble, g)

/-- Ask for operations one after another, also after a failure, and keep every answer. -/
def performAll (ops : List Operation) (g : Generator σ) :
    Option (List (Except Failure Answer) × Generator σ) :=
  match ops with
  | [] => some ([], g)
  | op :: rest =>
    match g.perform op with
    | none => none
    | some (answer, g) => (performAll rest g).map fun r => (answer :: r.1, r.2)

end Generator

end SeedStream
