import SeedStream.Double.Binary
import SeedStream.Numeral
import SeedStream.Text.Blank
import SeedStream.Text.Digit

/-!
# Doubles in text

How a text is read as a double. Blanks may stand around it; a sign, digits with or without a point
and an exponent make a number, a single `_` may stand between two digits, and `inf`, `infinity` and
`nan` are known in any case. The double nearest to the written number is taken.
-/

namespace SeedStream.Double

/-- A text with the decimal digits of every script written as ASCII digits, if nothing else in it
    lies outside ASCII. -/
def asciiText? (cs : List Char) : Option (List Char) :=
  cs.mapM fun c =>
    if c.toNat < 128 then some c else (Text.decimalValue? c).map Numeral.digitChar

/-- Remove every `_`, each of which must stand between two digits. -/
def dropSeparators? (before : Char) : List Char → Option (List Char)
  | [] => if before = '_' then none else some []
  | c :: rest =>
    if c = '_' then if before.isDigit then dropSeparators? c rest else none
    else if before = '_' && !c.isDigit then none
    else (dropSeparators? c rest).map (c :: ·)

/-- The number that a row of ASCII digits writes. -/
def digitsValue (cs : List Char) : Nat :=
  cs.foldl (fun n c => 10 * n + (c.toNat - 48)) 0

/-- The exponent at the end of a number: none at all is zero. -/
def exponent? : List Char → Option Int
  | [] => some 0
  | mark :: rest =>
    if mark = 'e' || mark = 'E' then
      let digits? (cs : List Char) : Option Nat :=
        if cs.isEmpty || !cs.all Char.isDigit then none else some (digitsValue cs)
      match rest with
      | '-' :: ds => (digits? ds).map fun n => -(n : Int)
      | '+' :: ds => (digits? ds).map Int.ofNat
      | ds => (digits? ds).map Int.ofNat
    else none

/-- The double nearest to `mantissa * 10 ^ exponent`. -/
def ofScientific (negative : Bool) (mantissa : Nat) (exponent : Int) : Float :=
  let place := exponent + (Numeral.decimal mantissa).length
  if mantissa = 0 || place < -400 then ofRatio negative 0 1
  else if 400 < place then ofRatio negative (Nat.pow 2 1100) 1
  else
    match exponent with
    | .ofNat k => ofRatio negative (mantissa * Nat.pow 10 k) 1
    | .negSucc k => ofRatio negative mantissa (Nat.pow 10 (k + 1))

/-- A number without sign. -/
def number? (negative : Bool) (cs : List Char) : Option Float :=
  let word := cs.map Char.toLower
  if word = ['i', 'n', 'f'] || word = ['i', 'n', 'f', 'i', 'n', 'i', 't', 'y'] then
    some (Float.ofBits (UInt64.ofNat (infinityBits + if negative then 0x8000000000000000 else 0)))
  else if word = ['n', 'a', 'n'] then some (Float.ofBits 0x7ff8000000000000)
  else
    let whole := cs.takeWhile Char.isDigit
    let rest := cs.dropWhile Char.isDigit
    let (places, tail) :=
      match rest with
      | '.' :: more => (more.takeWhile Char.isDigit, more.dropWhile Char.isDigit)
      | more => ([], more)
    if whole.isEmpty && places.isEmpty then none
    else
      (exponent? tail).map fun e =>
        ofScientific negative (digitsValue (whole ++ places)) (e - places.length)

/-- The double that a text holds. -/
def parse? (cs : List Char) : Option Float := do
  let ascii ← asciiText? (Text.trim Text.isNumberBlank cs)
  let plain ← dropSeparators? ' ' ascii
  match plain with
  | '-' :: rest => number? true rest
  | '+' :: rest => number? false rest
  | rest => number? false rest

end SeedStream.Double
