import SeedStream.Operation
import SeedStream.Request.Core

/-!
# Operations on the core generator

The operations that a caller may ask of the core generator by itself, with arguments as the caller gives
them. A refused argument, such as a row of three words for a state, leaves the state as it was.
-/

namespace SeedStream

/-- An operation on the core generator. -/
inductive CoreOperation
  /-- Expand a seed to a new state. -/
  | seed (seed : Value)
  /-- Put given words in the place of the state. -/
  | replace (words : Value)
  /-- Take a step. -/
  | next
  /-- Take a number of steps. -/
  | fill (count : Value)

namespace State

/-- Ask for an operation. -/
def perform [Memory] (op : CoreOperation) (s : State) : Except Failure Answer × State :=
  match op with
  | .seed seed =>
    match Request.seededState seed with
    | .ok t => (.ok .nothing, t)
    | .error e => (.error e, s)
  | .replace words =>
    match Request.replacedState words with
    | .ok t => (.ok .nothing, t)
    | .error e => (.error e, s)
  | .next =>
    let (w, t) := s.step
    (.ok (.word w), t)
  | .fill count =>
    match Generator.coreCount count with
    | .ok n =>
      let (ws, t) := s.run n
      (.ok (.words ws), t)
    | .error e => (.error e, s)

/-- Ask for operations one after another, also after a failure, and keep every answer. -/
def performAll [Memory] (ops : List CoreOperation) (s : State) : List (Except Failure Answer) × State :=
  match ops with
  | [] => ([], s)
  | op :: rest =>
    let (answer, s) := s.perform op
    let (answers, s) := performAll rest s
    (answer :: answers, s)

end State

end SeedStream
