import SeedStream.Double.Binary
import SeedStream.Numeral

/-!
# The shortest text of a double

The fewest decimal digits that still read back as the same double, and of those the nearest. The
text is positional while the decimal point stands within sixteen places before it and four zeros
behind it, and keeps a `.0`; otherwise it has an exponent with a sign and at least two digits.
-/

namespace SeedStream.Double

/-- A decimal fraction `0.d₁d₂… * 10 ^ point`. -/
structure Decimal where
  /-- The digits, the first and last of which are not zero. -/
  digits : List Char
  /-- Where the decimal point stands, counted from before the first digit. -/
  point : Int
  deriving Repr

/-- The number of decimal digits of a natural number. -/
def digitCount (n : Nat) : Nat :=
  (Numeral.decimal n).length

/-- The place `p` with `10 ^ (p - 1) ≤ num / den < 10 ^ p`, for positive numbers. -/
def pointOf (num den : Nat) : Int :=
  if den ≤ num then digitCount (num / den)
  else 1 - (digitCount ((den - 1) / num) : Int)

/-- A decimal grid against a double `m * 2 ^ q`: multiples of `10 ^ place` and quarters of `2 ^ q`
    in one unit. -/
structure Grid where
  /-- What a step of the decimal grid measures. -/
  step : Nat
  /-- What a quarter of `2 ^ q` measures. -/
  quarter : Nat

/-- The grid of multiples of `10 ^ place`. -/
def Grid.make (q place : Int) : Grid where
  step := Nat.pow 10 place.toNat * Nat.pow 2 (2 - q).toNat
  quarter := Nat.pow 2 (q - 2).toNat * Nat.pow 10 (-place).toNat

/-- The point `c` of a grid reads back as the double: it lies between the midpoints to the
    neighbours, which count exactly if the mantissa is even. -/
def Grid.hits (g : Grid) (m : Nat) (narrow : Bool) (c : Nat) : Bool :=
  let x := c * g.step
  let low := (4 * m - if narrow then 1 else 2) * g.quarter
  let high := (4 * m + 2) * g.quarter
  if m % 2 = 0 then low ≤ x && x ≤ high else low < x && x < high

/-- The neighbour of the double on a grid that reads back, if any: the nearer one of two. -/
def Grid.pick? (g : Grid) (m : Nat) (narrow : Bool) : Option Nat :=
  let v := 4 * m * g.quarter
  let c := v / g.step
  match g.hits m narrow c, g.hits m narrow (c + 1) with
  | false, false => none
  | true, false => some c
  | false, true => some (c + 1)
  | true, true =>
    let below := v - c * g.step
    let above := (c + 1) * g.step - v
    if below < above then some c
    else if above < below then some (c + 1)
    else if c % 2 = 0 then some c else some (c + 1)

/-- Search the grids with `size` digits and more, at most `fuel` of them. -/
def searchGrid (m : Nat) (q point : Int) (narrow : Bool) : Nat → Nat → Nat × Int
  | 0, size => (4 * m, point - size)
  | fuel + 1, size =>
    let place := point - size
    match (Grid.make q place).pick? m narrow with
    | some c => (c, place)
    | none => searchGrid m q point narrow fuel (size + 1)

/-- The fewest digits that read back as the positive double `m * 2 ^ q`. -/
def shortest (m : Nat) (q : Int) : Decimal :=
  let (num, den) := sizeRatio m q
  let narrow := m == 0x10000000000000 && -1074 < q
  let (c, place) := searchGrid m q (pointOf num den) narrow 17 1
  let digits := Numeral.decimal c
  ⟨(digits.reverse.dropWhile (· == '0')).reverse, place + digits.length⟩

/-- The exponent of a text: its sign and at least two digits. -/
def exponentText (e : Int) : List Char :=
  (if e < 0 then '-' else '+') :: Numeral.padZeros 2 (Numeral.decimal e.natAbs)

/-- The text of a positive decimal fraction. -/
def Decimal.text (d : Decimal) : List Char :=
  let count : Int := d.digits.length
  if -4 < d.point ∧ d.point ≤ 16 then
    if d.point ≤ 0 then
      '0' :: '.' :: (List.replicate (-d.point).toNat '0' ++ d.digits)
    else if count ≤ d.point then
      d.digits ++ List.replicate (d.point - count).toNat '0' ++ ['.', '0']
    else d.digits.take d.point.toNat ++ '.' :: d.digits.drop d.point.toNat
  else
    let first := d.digits.take 1
    let others := d.digits.drop 1
    first ++ (if others.isEmpty then [] else '.' :: others) ++ 'e' :: exponentText (d.point - 1)

/-- A minus sign, if any. -/
def signText (negative : Bool) : List Char :=
  if negative then ['-'] else []

/-- The shortest text of a double. -/
def text (x : Float) : List Char :=
  match parts x with
  | .nan => ['n', 'a', 'n']
  | .infinite negative => signText negative ++ ['i', 'n', 'f']
  | .finite negative m q =>
    signText negative ++ if m = 0 then ['0', '.', '0'] else (shortest m q).text

/-- A grid point that is picked reads back as the double. -/
theorem Grid.hits_of_pick? {g : Grid} {m : Nat} {narrow : Bool} {c : Nat}
    (h : g.pick? m narrow = some c) : g.hits m narrow c = true := by
  simp only [Grid.pick?] at h
  split at h
  · simp at h
  · simp_all
  · simp_all
  · split at h
    · simp_all
    · split at h
      · simp_all
      · split at h <;> simp_all

end SeedStream.Double
