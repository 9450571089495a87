import SeedStream.Numeral

/-!
# Numbers of bytes

How messages write a number of bytes: in the largest binary unit that it fills, with three digits
or, from a thousand on, with all of its whole ones. Below a thousand bytes there are no places.
-/

namespace SeedStream.ByteCount

/-- The units, each 1024 times the one before. -/
def units : List String :=
  ["bytes", "KiB", "MiB", "GiB", "TiB", "PiB", "EiB"]

/-- A quotient rounded to the nearest natural number, a tie to the even one. -/
def nearest (num den : Nat) : Nat :=
  let down := num / den
  let twice := 2 * (num % den)
  if twice < den ∨ (twice = den ∧ down % 2 = 0) then down else down + 1

/-- The index of the unit of a number of bytes. -/
def unitIndex (bytes : Nat) : Nat :=
  let index := max (Nat.log2 bytes) 1 / 10
  if nearest bytes (Nat.pow 1024 index) = 1024 then index + 1 else index

/-- A quotient as a decimal with the given number of places, the point always written. -/
def decimal (places num den : Nat) : List Char :=
  let digits := Numeral.padZeros (places + 1) (Numeral.decimal (nearest (num * Nat.pow 10 places) den))
  digits.take (digits.length - places) ++ '.' :: digits.drop (digits.length - places)

/-- The places of a quotient that has three digits in all, three or more before its point. -/
def placesOf (num den : Nat) : Nat :=
  if nearest (num * 100) den < 1000 then 2 else if nearest (num * 10) den < 1000 then 1 else 0

/-- A number of bytes as messages write it. -/
def text (bytes : Nat) : String :=
  let index := min (unitIndex bytes) (units.length - 1)
  let size := Nat.pow 1024 index
  let numeral :=
    if index = 0 then Numeral.decimal bytes else decimal (placesOf bytes size) bytes size
  String.ofList numeral ++ " " ++ units.getD index ""

end SeedStream.ByteCount
