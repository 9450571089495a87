import SeedStream.Failure
import SeedStream.FileTree
import SeedStream.Value
import SeedStream.Word

/-!
# SHA-256

The digest of a row of bytes. Bytes are absorbed one after another; whenever sixteen words are
full, they are compressed into the chaining value. Absorbing a row in pieces is therefore the same
as absorbing it at once. A file is digested in pieces of a chosen length.
-/

namespace SeedStream

namespace Digest

/-- The first 32 bits of the fractional parts of the cube roots of the first 64 primes. -/
def roundConstants : List Word :=
  [0x428a2f98, 0x71374491, 0xb5c0fbcf, 0xe9b5dba5, 0x3956c25b, 0x59f111f1, 0x923f82a4, 0xab1c5ed5,
    0xd807aa98, 0x12835b01, 0x243185be, 0x550c7dc3, 0x72be5d74, 0x80deb1fe, 0x9bdc06a7, 0xc19bf174,
    0xe49b69c1, 0xefbe4786, 0x0fc19dc6, 0x240ca1cc, 0x2de92c6f, 0x4a7484aa, 0x5cb0a9dc, 0x76f988da,
    0x983e5152, 0xa831c66d, 0xb00327c8, 0xbf597fc7, 0xc6e00bf3, 0xd5a79147, 0x06ca6351, 0x14292967,
    0x27b70a85, 0x2e1b2138, 0x4d2c6dfc, 0x53380d13, 0x650a7354, 0x766a0abb, 0x81c2c92e, 0x92722c85,
    0xa2bfe8a1, 0xa81a664b, 0xc24b8b70, 0xc76c51a3, 0xd192e819, 0xd6990624, 0xf40e3585, 0x106aa070,
    0x19a4c116, 0x1e376c08, 0x2748774c, 0x34b0bcb5, 0x391c0cb3, 0x4ed8aa4a, 0x5b9cca4f, 0x682e6ff3,
    0x748f82ee, 0x78a5636f, 0x84c87814, 0x8cc70208, 0x90befffa, 0xa4506ceb, 0xbef9a3f7, 0xc67178f2]

/-- The eight words that a digest is made of. -/
structure Chain where
  a : Word
  b : Word
  c : Word
  d : Word
  e : Word
  f : Word
  g : Word
  h : Word
  deriving DecidableEq, Repr

/-- The chaining value of no bytes. -/
def Chain.initial : Chain :=
  ⟨0x6a09e667, 0xbb67ae85, 0x3c6ef372, 0xa54ff53a, 0x510e527f, 0x9b05688c, 0x1f83d9ab, 0x5be0cd19⟩

/-- The words of a chaining value in order. -/
def Chain.words (v : Chain) : List Word :=
  [v.a, v.b, v.c, v.d, v.e, v.f, v.g, v.h]

/-- Add two chaining values word by word. -/
def Chain.add (v w : Chain) : Chain :=
  ⟨v.a + w.a, v.b + w.b, v.c + w.c, v.d + w.d, v.e + w.e, v.f + w.f, v.g + w.g, v.h + w.h⟩

/-- A word's bits moved to the right by `k`, those that leave coming back on the left. -/
def rotateRight (w k : Word) : Word :=
  Word.rotateLeft w (32 - k)

/-- The small sigma functions mix two rotations and a shift. -/
def smallSigma (i j k w : Word) : Word :=
  rotateRight w i ^^^ rotateRight w j ^^^ (w >>> k)

/-- The large sigma functions mix three rotations. -/
def largeSigma (i j k w : Word) : Word :=
  rotateRight w i ^^^ rotateRight w j ^^^ rotateRight w k

/-- One round with a constant and a word of the schedule added up. -/
def Chain.round (v : Chain) (input : Word) : Chain :=
  let choice := (v.e &&& v.f) ^^^ (~~~v.e &&& v.g)
  let majority := (v.a &&& v.b) ^^^ (v.a &&& v.c) ^^^ (v.b &&& v.c)
  let t1 := v.h + largeSigma 6 11 25 v.e + choice + input
  let t2 := largeSigma 2 13 22 v.a + majority
  ⟨t1 + t2, v.a, v.b, v.c, v.d + t1, v.e, v.f, v.g⟩

/-- Extend a schedule, given last word first, by `count` words. -/
def extend : Nat → List Word → List Word
  | 0, ws => ws
  | count + 1, ws =>
    let word (i : Nat) := (ws[i]?).getD 0
    extend count
      ((smallSigma 17 19 10 (word 1) + word 6 + smallSigma 7 18 3 (word 14) + word 15) :: ws)

/-- The word of four bytes, the most significant first. -/
def bigEndian (b0 b1 b2 b3 : UInt8) : Word :=
  Word.ofBytes b3 b2 b1 b0

/-- The words of a row of bytes. -/
def wordsOf : List UInt8 → List Word
  | b0 :: b1 :: b2 :: b3 :: rest => bigEndian b0 b1 b2 b3 :: wordsOf rest
  | _ => []

/-- Compress a block of sixty-four bytes into a chaining value. -/
def compress (v : Chain) (block : List UInt8) : Chain :=
  let schedule := (extend 48 (wordsOf block).reverse).reverse
  v.add ((List.zipWith (· + ·) roundConstants schedule).foldl Chain.round v)

/-- The bytes of a word, the most significant first. -/
def wordBytes (w : Word) : List UInt8 :=
  (Word.bytes w).reverse

/-- The eight bytes of a number, the most significant first. -/
def lengthBytes (n : Nat) : List UInt8 :=
  (List.range 8).map fun i => UInt8.ofNat (n / Nat.pow 256 (7 - i))

end Digest

/-- A digest of the bytes absorbed so far. -/
structure Digest where
  chain : Digest.Chain
  /-- The bytes of the unfinished block, last first. -/
  pending : List UInt8
  /-- The number of bytes absorbed. -/
  length : Nat

namespace Digest

/-- The digest of no bytes. -/
def empty : Digest :=
  ⟨Chain.initial, [], 0⟩

/-- Absorb a byte. -/
def push (d : Digest) (b : UInt8) : Digest :=
  if d.length % 64 = 63 then ⟨compress d.chain (b :: d.pending).reverse, [], d.length + 1⟩
  else ⟨d.chain, b :: d.pending, d.length + 1⟩

/-- Absorb a row of bytes. -/
def absorb (d : Digest) (bytes : List UInt8) : Digest :=
  bytes.foldl push d

/-- The bytes that pad a row of a given length: a one bit, zeros and the length in bits, up to the
    end of a block. -/
def padding (length : Nat) : List UInt8 :=
  0x80 :: (List.replicate ((119 - length % 64) % 64) 0 ++ lengthBytes (8 * length))

/-- The bytes of the digest. -/
def finish (d : Digest) : List UInt8 :=
  (d.absorb (padding d.length)).chain.words.flatMap wordBytes

/-- The digest of a row of bytes. -/
def sha256 (bytes : List UInt8) : List UInt8 :=
  (empty.absorb bytes).finish

/-- Bytes in hexadecimal. -/
def hexText (bytes : List UInt8) : String :=
  String.ofList (bytes.flatMap fun b => Text.hexDigits 2 b.toNat)

/-- Absorbing two rows in turn is absorbing them at once. -/
theorem absorb_append (d : Digest) (xs ys : List UInt8) : d.absorb (xs ++ ys) = (d.absorb xs).absorb ys := by
  simp [absorb]

/-! ## Files in pieces -/

/-- How much of a file is read at a time. -/
inductive PieceSize
  /-- The whole file. -/
  | all
  /-- So many bytes; none at all ends the reading. -/
  | bytes (size : Nat)

/-- The bytes that a row of bytes takes in memory besides its own. -/
def rowHead : Nat := 33

/-- The length of a piece that a value asks for; minus one, like nothing, asks for all. -/
def PieceSize.ofValue (v : Value) : Except Failure PieceSize :=
  match v with
  | .null => .ok .all
  | .bool b => .ok (.bytes (if b then 1 else 0))
  | .int i =>
    if i = -1 then .ok .all
    else if i < -0x8000000000000000 ∨ 0x8000000000000000 ≤ i then .error (.range .readSize)
    else if i < 0 then .error (.value .readLength)
    else if 0x8000000000000000 ≤ i + rowHead then .error (.range .bytes)
    else .ok (.bytes i.toNat)
  | _ => .error (.kind (.readSize v.kind))

/-- The length of a piece unless another one is asked for. -/
def defaultPiece : Int := 1048576

/-- The bytes that a read of a file of some length takes in memory. The whole file is read with one more
    byte, which finds its end. -/
def PieceSize.taken (size : PieceSize) (length : Nat) : Nat :=
  match size with
  | .all => length + 1 + rowHead
  | .bytes n => n + rowHead

/-- There is memory for the reads of a file of some length. -/
def PieceSize.checkMemory [Memory] (size : PieceSize) (length : Nat) : Except Failure Unit :=
  if memoryLimit ≤ size.taken length then .error (.memory .other) else .ok ()

/-- One read of an open file: the piece that it gives, and what it leaves to be read. -/
def PieceSize.read (size : PieceSize) (left : List UInt8) : List UInt8 × List UInt8 :=
  match size with
  | .all => (left, [])
  | .bytes n => (left.take n, left.drop n)

/-- A file while it is digested. -/
structure Reading where
  /-- The digest of what was read. -/
  digest : Digest
  /-- The bytes that are still to be read. -/
  left : List UInt8

/-- One turn of the loop: a piece is read and absorbed. An empty piece ends the loop. -/
def Reading.turn (size : PieceSize) (r : Reading) : Option Reading :=
  let (piece, left) := size.read r.left
  if piece = [] then none else some ⟨r.digest.absorb piece, left⟩

/-- A read loses nothing and gives nothing twice. -/
theorem PieceSize.read_append (size : PieceSize) (left : List UInt8) :
    (size.read left).1 ++ (size.read left).2 = left := by
  cases size with
  | all => exact List.append_nil left
  | bytes n => exact List.take_append_drop n left

theorem Reading.turn_eq_some_iff {size : PieceSize} {r next : Reading} :
    r.turn size = some next ↔
      (size.read r.left).1 ≠ [] ∧ next = ⟨r.digest.absorb (size.read r.left).1, (size.read r.left).2⟩ := by
  rw [turn, Option.ite_none_left_eq_some, Option.some.injEq, @eq_comm _ next]

theorem Reading.turn_eq_none_iff {size : PieceSize} {r : Reading} : r.turn size = none ↔ (size.read r.left).1 = [] := by
  simp only [turn, ite_eq_left_iff, reduceCtorEq, imp_false, Decidable.not_not]

/-- A turn that does not end the loop leaves less to be read. -/
theorem Reading.length_left_of_turn {size : PieceSize} {r next : Reading} (turned : r.turn size = some next) :
    next.left.length < r.left.length := by
  obtain ⟨piece, rfl⟩ := turn_eq_some_iff.mp turned
  have whole := congrArg List.length (size.read_append r.left)
  have taken := List.length_pos_iff.mpr piece
  rw [List.length_append] at whole
  dsimp only
  omega

/-- Turn after turn up to the empty piece. -/
def Reading.run (size : PieceSize) (r : Reading) : Digest :=
  match _turned : r.turn size with
  | none => r.digest
  | some next => next.run size
termination_by r.left.length
decreasing_by exact length_left_of_turn _turned

theorem Reading.run_of_turn_eq_none {size : PieceSize} {r : Reading} (ended : r.turn size = none) :
    r.run size = r.digest := by
  rw [run]
  split
  case h_1 => rfl
  case h_2 turned => exact nomatch ended.symm.trans turned

theorem Reading.run_of_turn_eq_some {size : PieceSize} {r next : Reading} (turned : r.turn size = some next) :
    r.run size = next.run size := by
  rw [run]
  split
  case h_1 ended => exact nomatch turned.symm.trans ended
  case h_2 other =>
    cases turned.symm.trans other
    rfl

/-- The digest of a row that is read in pieces. -/
def inPieces (size : PieceSize) (bytes : List UInt8) : List UInt8 :=
  (Reading.run size ⟨empty, bytes⟩).finish

/-- The digest of a file in hexadecimal; the file is opened before the length of a piece counts. -/
def ofFile [Memory] (t : FileTree) (p : Path) (piece : Value) : Except Failure String := do
  let bytes ← t.read p
  let size ← PieceSize.ofValue piece
  size.checkMemory bytes.length
  return hexText (inPieces size bytes)

/-- There is always memory for the usual piece, so a file that can be read has a digest. -/
theorem exists_ofFile [Memory] {t : FileTree} {p : Path} {bytes : List UInt8} (held : t.read p = .ok bytes) :
    ∃ digest, ofFile t p (.int defaultPiece) = .ok digest := by
  have fits : ¬ memoryLimit ≤ (PieceSize.bytes 1048576).taken bytes.length :=
    Nat.not_le.mpr (Nat.lt_of_lt_of_le (by decide : 1048576 + rowHead < 0x200000) Memory.enough)
  refine ⟨hexText (inPieces (.bytes 1048576) bytes), ?_⟩
  rw [ofFile, held]
  change (do (PieceSize.bytes 1048576).checkMemory bytes.length; _) = _
  rw [PieceSize.checkMemory, if_neg fits]
  rfl

end Digest

end SeedStream
