import SeedStream.Word

/-!
# Generator state

The core generator: four words of state, an output that scrambles the second word, and a step that
mixes the words by exclusive or, a shift and a rotation. A run of steps gives the successive
outputs and the state that follows them.
-/

namespace SeedStream

/-- The four words of the generator. -/
structure State where
  s0 : Word
  s1 : Word
  s2 : Word
  s3 : Word
  deriving DecidableEq, Repr

namespace State

/-- The state of four zero words, which no step leaves. -/
def zero : State := ⟨0, 0, 0, 0⟩

/-- All four words are zero. -/
def isZero (s : State) : Bool :=
  s == zero

/-- The words in order. -/
def words (s : State) : List Word :=
  [s.s0, s.s1, s.s2, s.s3]

/-- The output of a state: its second word multiplied, rotated and multiplied again. -/
def output (s : State) : Word :=
  Word.rotateLeft (s.s1 * 5) 7 * 9

/-- The state after one step. -/
def next (s : State) : State :=
  let s2 := s.s2 ^^^ s.s0
  let s3 := s.s3 ^^^ s.s1
  ⟨s.s0 ^^^ s3, s.s1 ^^^ s2, s2 ^^^ (s.s1 <<< 9), Word.rotateLeft s3 11⟩

/-- One step: the output and the state after it. -/
def step (s : State) : Word × State :=
  (s.output, s.next)

/-- The state after a number of steps. -/
def advance : Nat → State → State
  | 0, s => s
  | n + 1, s => advance n s.next

/-- Run a number of steps; `done` holds the outputs so far, last first. -/
def runFrom (done : List Word) : Nat → State → List Word × State
  | 0, s => (done.reverse, s)
  | n + 1, s => runFrom (s.output :: done) n s.next

/-- The outputs of a number of steps and the state after them. -/
def run (n : Nat) (s : State) : List Word × State :=
  runFrom [] n s

/-- The outputs of a number of steps. -/
def outputs (n : Nat) (s : State) : List Word :=
  (run n s).1

theorem runFrom_eq (done : List Word) (n : Nat) (s : State) :
    runFrom done n s = (done.reverse ++ (runFrom [] n s).1, (runFrom [] n s).2) := by
  induction n generalizing done s with
  | zero => simp [runFrom]
  | succ n ih => rw [runFrom, ih, runFrom, ih [s.output]]; simp

@[simp] theorem outputs_zero (s : State) : outputs 0 s = [] := rfl

/-- The first output is the state's own; the others are those of the next state. -/
@[simp] theorem outputs_succ (n : Nat) (s : State) : outputs (n + 1) s = s.output :: outputs n s.next := by
  rw [outputs, run, runFrom, runFrom_eq]; rfl

@[simp] theorem run_fst (n : Nat) (s : State) : (run n s).1 = outputs n s := rfl

/-- A run ends in the state that as many steps lead to. -/
@[simp] theorem run_snd (n : Nat) (s : State) : (run n s).2 = advance n s := by
  induction n generalizing s with
  | zero => rfl
  | succ n ih => rw [run, runFrom, runFrom_eq]; exact ih s.next

@[simp] theorem length_outputs (n : Nat) (s : State) : (outputs n s).length = n := by
  induction n generalizing s with
  | zero => rfl
  | succ n ih => simp [ih]

/-- A row of outputs goes on where its first part ends. -/
theorem outputs_add (m n : Nat) (s : State) : outputs (m + n) s = outputs m s ++ outputs n (advance m s) := by
  induction m generalizing s with
  | zero => rw [Nat.zero_add]; rfl
  | succ m ih => rw [Nat.succ_add, outputs_succ, outputs_succ, ih]; rfl

theorem outputs_add_one (k : Nat) (s : State) : outputs (k + 1) s = outputs k s ++ [(advance k s).output] := by
  rw [outputs_add, outputs_succ, outputs_zero]

theorem getElem_outputs {n i : Nat} {s : State} (short : i < (outputs n s).length) :
    (outputs n s)[i] = (advance i s).output := by
  induction n generalizing i s with
  | zero => exact absurd short (Nat.not_lt_zero i)
  | succ n ih =>
    cases i with
    | zero => simp only [outputs_succ, List.getElem_cons_zero]; rfl
    | succ i => simp only [outputs_succ, List.getElem_cons_succ, ih, advance]

/-- The words of a row of outputs are those that as few steps lead to. -/
theorem mem_outputs {n : Nat} {w : Word} {s : State} : w ∈ outputs n s ↔ ∃ k < n, (advance k s).output = w := by
  rw [List.mem_iff_getElem]
  constructor
  · rintro ⟨k, short, rfl⟩
    exact ⟨k, length_outputs n s ▸ short, (getElem_outputs short).symm⟩
  · rintro ⟨k, short, rfl⟩
    have inside : k < (outputs n s).length := (length_outputs n s).symm ▸ short
    exact ⟨k, inside, getElem_outputs inside⟩

/-- A step does not leave the zero state. -/
theorem next_zero : next zero = zero := by decide

end State

end SeedStream
