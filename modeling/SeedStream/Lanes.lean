import SeedStream.Seed

/-!
# Lanes

Many states side by side, kept as four columns. Seeding and stepping work on whole columns; a row
of the columns is a state of its own.
-/

namespace SeedStream

/-- Four columns of `n` words. -/
structure Lanes (n : Nat) where
  c0 : Vector Word n
  c1 : Vector Word n
  c2 : Vector Word n
  c3 : Vector Word n

namespace Lanes

variable {n : Nat}

/-- A row of the columns. -/
def row (l : Lanes n) (i : Fin n) : State :=
  ⟨l.c0[i], l.c1[i], l.c2[i], l.c3[i]⟩

/-- The rows in order. -/
def rows (l : Lanes n) : List State :=
  (List.finRange n).map l.row

/-- Exclusive or of two columns. -/
def xor (a b : Vector Word n) : Vector Word n :=
  Vector.zipWith (· ^^^ ·) a b

/-- Rotate every word of a column. -/
def rotateLeft (a : Vector Word n) (k : Word) : Vector Word n :=
  a.map fun w => (w <<< k) ||| (w >>> (32 - k))

/-- The outputs of all rows. -/
def output (l : Lanes n) : Vector Word n :=
  (rotateLeft (l.c1.map (· * 5)) 7).map (· * 9)

/-- The columns after one step of every row. -/
def next (l : Lanes n) : Lanes n :=
  let c2 := xor l.c2 l.c0
  let c3 := xor l.c3 l.c1
  ⟨xor l.c0 c3, xor l.c1 c2, xor c2 (l.c1.map (· <<< (9 : Word))), rotateLeft c3 11⟩

/-- Exclusive or of every word of a column with its own high bits. -/
def fold (k : Word) (a : Vector Word n) : Vector Word n :=
  xor a (a.map (· >>> k))

/-- Mix every word of a column. -/
def mix (a : Vector Word n) : Vector Word n :=
  fold 16 ((fold 13 ((fold 15 a).map (· * 0x85ebca6b))).map (· * 0xc2b2ae35))

/-- The columns that a column of seeds expands to. -/
def ofWords (seeds : Vector Word n) : Lanes n :=
  let a0 := seeds.map (· + Seed.distance)
  let a1 := a0.map (· + Seed.distance)
  let a2 := a1.map (· + Seed.distance)
  let a3 := a2.map (· + Seed.distance)
  ⟨mix a0, mix a1, mix a2, mix a3⟩

/-- The columns that integer seeds expand to, one row a seed. -/
def ofSeeds (seeds : List Int) : Lanes seeds.length :=
  ofWords ⟨(seeds.map Word.ofInt).toArray, by simp⟩

/-- The columns with the given rows. -/
def ofRows (rows : List State) : Lanes rows.length where
  c0 := ⟨(rows.map State.s0).toArray, by simp⟩
  c1 := ⟨(rows.map State.s1).toArray, by simp⟩
  c2 := ⟨(rows.map State.s2).toArray, by simp⟩
  c3 := ⟨(rows.map State.s3).toArray, by simp⟩

/-- The rows that are zero. -/
def zeroRows (l : Lanes n) : Vector Bool n :=
  Vector.ofFn fun i => (l.row i).isZero

/-- Mark the rows that are zero within a number of steps, besides those already marked. -/
def markZero : Nat → Lanes n → Vector Bool n → Vector Bool n
  | 0, _, marked => marked
  | steps + 1, l, marked =>
    markZero steps l.next (Vector.zipWith (· || ·) marked l.next.zeroRows)

/-- Run a number of steps; `done` holds the outputs so far, last first. -/
def runFrom (done : List (Vector Word n)) : Nat → Lanes n → List (Vector Word n) × Lanes n
  | 0, l => (done.reverse, l)
  | steps + 1, l => runFrom (l.output :: done) steps l.next

/-- The outputs of a number of steps and the columns after them. -/
def run (steps : Nat) (l : Lanes n) : List (Vector Word n) × Lanes n :=
  runFrom [] steps l

/-- A row of a rotated column is the rotated row. -/
theorem getElem_rotateLeft (a : Vector Word n) (k : Word) (i : Nat) (h : i < n) :
    (rotateLeft a k)[i] = Word.rotateLeft a[i] k := by
  simp [rotateLeft, Word.rotateLeft]

end Lanes

end SeedStream
