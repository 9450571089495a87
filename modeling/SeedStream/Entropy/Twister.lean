import SeedStream.Word

/-!
# The Mersenne twister

The generator MT19937: 624 words of state, renewed as a whole, and an output that tempers one of
them. A seed of any size is a row of words that is folded into the state twice.
-/

namespace SeedStream

/-- The state of the twister and the number of its words already handed out. -/
structure Twister where
  words : Vector Word 624
  used : Nat

namespace Twister

/-- A word of a state by its number, counted in a circle. -/
def get (v : Vector Word 624) (i : Nat) : Word :=
  v.get ⟨i % 624, Nat.mod_lt _ (by decide)⟩

/-- Set a word of a state by its number, counted in a circle. -/
def put (v : Vector Word 624) (i : Nat) (w : Word) : Vector Word 624 :=
  v.set (i % 624) w (Nat.mod_lt _ (by decide))

/-- A word with its last two bits folded in, times a factor. -/
def spread (w factor : Word) : Word :=
  (w ^^^ (w >>> 30)) * factor

/-- The state that a single word is expanded to. -/
def ofWord (seed : Word) : Vector Word 624 :=
  (List.range 623).foldl (fun v i => put v (i + 1) (spread (get v i) 1812433253 + UInt32.ofNat (i + 1)))
    (put (Vector.replicate 624 0) 0 seed)

/-- After the last word of a state the first one takes its value, and counting goes on at one. -/
def wrap (v : Vector Word 624) (i : Nat) : Vector Word 624 × Nat :=
  if 624 ≤ i then (put v 0 (get v 623), 1) else (v, i)

/-- Fold the words of a seed into a state: `steps` more times, at word `i` of the state and word
    `j` of the seed. -/
def absorb (key : List Word) : Nat → Vector Word 624 → Nat → Nat → Vector Word 624 × Nat
  | 0, v, i, _ => (v, i)
  | steps + 1, v, i, j =>
    let w := (get v i ^^^ spread (get v (i - 1)) 1664525) + (key[j]?).getD 0 + UInt32.ofNat j
    let (v, i) := wrap (put v i w) (i + 1)
    absorb key steps v i (if j + 1 < key.length then j + 1 else 0)

/-- Stir a state: `steps` more times, at word `i`. -/
def stir : Nat → Vector Word 624 → Nat → Vector Word 624
  | 0, v, _ => v
  | steps + 1, v, i =>
    let w := (get v i ^^^ spread (get v (i - 1)) 1566083941) - UInt32.ofNat i
    let (v, i) := wrap (put v i w) (i + 1)
    stir steps v i

/-- The twister that a row of words seeds. -/
def ofKey (key : List Word) : Twister :=
  let (v, i) := absorb key (max 624 key.length) (ofWord 19650218) 1 0
  ⟨put (stir 623 v i) 0 0x80000000, 624⟩

/-- The words of a natural number, the least significant first, at least one. -/
def keyOf (n : Nat) : List Word :=
  if n < 0x100000000 then [UInt32.ofNat n] else UInt32.ofNat n :: keyOf (n / 0x100000000)
termination_by n
decreasing_by omega

/-- The twister that an integer seeds; its sign does not count. -/
def ofSeed (seed : Int) : Twister :=
  ofKey (keyOf seed.natAbs)

/-- The word that replaces word `i` when the state is renewed. -/
def renewed (v : Vector Word 624) (i : Nat) : Word :=
  let y := (get v i &&& 0x80000000) ||| (get v (i + 1) &&& 0x7fffffff)
  get v (i + 397) ^^^ (y >>> 1) ^^^ (if y &&& 1 = 1 then 0x9908b0df else 0)

/-- Renew every word of the state in order. -/
def renew (v : Vector Word 624) : Vector Word 624 :=
  (List.range 624).foldl (fun v i => put v i (renewed v i)) v

/-- Temper a word of the state for output. -/
def temper (w : Word) : Word :=
  let w := w ^^^ (w >>> 11)
  let w := w ^^^ ((w <<< 7) &&& 0x9d2c5680)
  let w := w ^^^ ((w <<< 15) &&& 0xefc60000)
  w ^^^ (w >>> 18)

/-- The next output. -/
def next (t : Twister) : Word × Twister :=
  let t := if 624 ≤ t.used then ⟨renew t.words, 0⟩ else t
  (temper (get t.words t.used), { t with used := t.used + 1 })

end Twister

end SeedStream
