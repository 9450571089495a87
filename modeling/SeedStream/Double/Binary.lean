/-!
# Binary64 numbers

A double stands for a sign and a natural multiple of a power of two, for an infinity or for no
number. A quotient of natural numbers has one nearest double; of two equally near ones the even one
is taken, and quotients beyond the largest double go to infinity.
-/

namespace SeedStream.Double

/-- What a double stands for. -/
inductive Parts
  /-- `mantissa * 2 ^ exponent` with a sign. -/
  | finite (negative : Bool) (mantissa : Nat) (exponent : Int)
  /-- An infinity. -/
  | infinite (negative : Bool)
  /-- No number. -/
  | nan
  deriving DecidableEq, Repr

/-- Take the bits of a double apart. -/
def partsOfBits (bits : Nat) : Parts :=
  let negative := bits / 0x8000000000000000 % 2 == 1
  let scale := bits / 0x10000000000000 % 2048
  let fraction := bits % 0x10000000000000
  if scale = 2047 then if fraction = 0 then .infinite negative else .nan
  else if scale = 0 then .finite negative fraction (-1074)
  else .finite negative (0x10000000000000 + fraction) (Int.ofNat scale - 1075)

/-- What a double stands for. -/
def parts (x : Float) : Parts :=
  partsOfBits x.toBits.toNat

/-- The natural number nearest to a quotient, the even one of two. -/
def roundDiv (num den : Nat) : Nat :=
  let q := num / den
  let r := num % den
  if 2 * r < den then q
  else if den < 2 * r then q + 1
  else if q % 2 = 0 then q else q + 1

/-- The quotient `num / (den * 2 ^ q)` as a quotient of natural numbers. -/
def scaled (num den : Nat) (q : Int) : Nat × Nat :=
  match q with
  | .ofNat k => (num, den * Nat.pow 2 k)
  | .negSucc k => (num * Nat.pow 2 (k + 1), den)

/-- The power `k` of two with `2 ^ k ≤ num / den < 2 ^ (k + 1)`, for positive numbers. -/
def log2Ratio (num den : Nat) : Int :=
  let e : Int := (num.log2 : Int) - den.log2
  let (a, b) := scaled num den e
  if b ≤ a then e else e - 1

/-- The bits of infinity. -/
def infinityBits : Nat := 0x7ff0000000000000

/-- The bits of the double nearest to a quotient. -/
def ratioBits (num den : Nat) : Nat :=
  if num = 0 then 0
  else
    let q := max (log2Ratio num den - 52) (-1074)
    if 971 < q then infinityBits
    else
      let (a, b) := scaled num den q
      min infinityBits ((q + 1074).toNat * 0x10000000000000 + roundDiv a b)

/-- The double nearest to a quotient, with a sign. -/
def ofRatio (negative : Bool) (num den : Nat) : Float :=
  Float.ofBits (UInt64.ofNat (ratioBits num den + if negative then 0x8000000000000000 else 0))

/-- The double nearest to an integer, if it is not beyond the largest one. -/
def ofInt? (i : Int) : Option Float :=
  if ratioBits i.natAbs 1 < infinityBits then some (ofRatio (i < 0) i.natAbs 1) else none

/-- The integer that lies at a finite number or next to it towards zero. -/
def truncate (negative : Bool) (mantissa : Nat) (exponent : Int) : Int :=
  let size : Nat :=
    match exponent with
    | .ofNat k => mantissa * Nat.pow 2 k
    | .negSucc k => mantissa / Nat.pow 2 (k + 1)
  if negative then -(size : Int) else size

/-- A finite number's size as a quotient of natural numbers. -/
def sizeRatio (mantissa : Nat) (exponent : Int) : Nat × Nat :=
  match exponent with
  | .ofNat k => (mantissa * Nat.pow 2 k, 1)
  | .negSucc k => (mantissa, Nat.pow 2 (k + 1))

/-- Order a finite number and an integer. -/
def compareInt (negative : Bool) (mantissa : Nat) (exponent : Int) (i : Int) : Ordering :=
  let (num, den) := sizeRatio mantissa exponent
  compare (if negative then -(num : Int) else (num : Int)) (i * den)

/-- The nearest natural number is at most half a unit above the quotient. -/
theorem roundDiv_le (num den : Nat) : 2 * (roundDiv num den * den) ≤ 2 * num + den := by
  have parts := Nat.div_add_mod num den
  rw [Nat.mul_comm] at parts
  simp only [roundDiv]
  split
  · omega
  · split
    · rw [Nat.add_mul, Nat.one_mul]; omega
    · split
      · omega
      · rw [Nat.add_mul, Nat.one_mul]; omega

/-- The nearest natural number is at most half a unit below the quotient. -/
theorem le_roundDiv {num den : Nat} (pos : 0 < den) : 2 * num ≤ 2 * (roundDiv num den * den) + den := by
  have parts := Nat.div_add_mod num den
  have small := Nat.mod_lt num pos
  rw [Nat.mul_comm] at parts
  simp only [roundDiv]
  split
  · omega
  · split
    · rw [Nat.add_mul, Nat.one_mul]; omega
    · split
      · omega
      · rw [Nat.add_mul, Nat.one_mul]; omega

end SeedStream.Double
