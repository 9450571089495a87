import SeedStream.Word

/-!
# Counts of a sample

What the battery counts in a sample of words: the bits that are one, how often each byte occurs
among the bytes of the words, and in how many words each bit is one. The three counts are taken
independently of one another.
-/

namespace SeedStream.Battery

/-- The bytes of a sample, the least significant of each word first. -/
def sampleBytes (ws : List Word) : List UInt8 :=
  ws.flatMap Word.bytes

/-- The bits of a byte that are one. -/
def byteOnes (b : UInt8) : Nat :=
  (List.range 8).foldl (fun n i => n + b.toNat / Nat.pow 2 i % 2) 0

/-- The bits of a sample that are one. -/
def ones (ws : List Word) : Nat :=
  (sampleBytes ws).foldl (fun n b => n + byteOnes b) 0

/-- Count one more occurrence of a byte. -/
def tally (counts : Vector Nat 256) (b : UInt8) : Vector Nat 256 :=
  counts.set b.toNat (counts.get ⟨b.toNat, b.toNat_lt⟩ + 1) b.toNat_lt

/-- How often each byte occurs in a sample. -/
def histogram (ws : List Word) : Vector Nat 256 :=
  (sampleBytes ws).foldl tally (Vector.replicate 256 0)

/-- In how many words a bit is one. -/
def bitCount (ws : List Word) (i : Nat) : Nat :=
  ws.foldl (fun n w => n + (Word.bit w (UInt32.ofNat i)).toNat) 0

/-- In how many words each bit is one, bit zero first. -/
def bitCounts (ws : List Word) : List Nat :=
  (List.range 32).map (bitCount ws)

@[simp] theorem length_bitCounts (ws : List Word) : (bitCounts ws).length = 32 := by
  simp [bitCounts]

end SeedStream.Battery
