import SeedStream.Argument

/-!
# Powers in single precision

The power of two numbers of single precision. The safe form settles the special cases first, also
where no number is involved: one to any power is one, any number to the power zero is one, and
minus one to an infinite power is one.
-/

namespace SeedStream.SinglePower

/-- A value in single precision; nothing at all is no number. -/
def ofValue (v : Value) : Except Failure Float32 :=
  match v with
  | .null => .ok (Float32.ofBits 0x7fc00000)
  | _ => v.toReal.map Float.toFloat32

/-- A case whose power is one whatever the arithmetic says. -/
def isSpecial (base exponent : Float32) : Bool :=
  base == 1.0 || exponent == 0.0 || (base == -1.0 && exponent.isInf)

/-- The power in single precision, rounded from double precision. -/
def power (safer : Bool) (base exponent : Float32) : Float32 :=
  if safer && isSpecial base exponent then 1.0
  else (Float.pow base.toFloat exponent.toFloat).toFloat32

/-- The power of two values. -/
def powerOf (base exponent safer : Value) : Except Failure Float32 := do
  let b ← ofValue base
  let e ← ofValue exponent
  return power safer.isGiven b e

end SeedStream.SinglePower
