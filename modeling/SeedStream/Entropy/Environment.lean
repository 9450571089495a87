import SeedStream.Failure

/-!
# The environment

What the machine offers as entropy: the successive readings of its clock, in nanoseconds, and the
successive answers of its entropy device. An environment knows how many of each were taken.
-/

namespace SeedStream

/-- An answer of the entropy device to a request for four bytes. -/
inductive DeviceAnswer
  /-- The bytes it gives, however many. -/
  | bytes (bytes : List UInt8)
  /-- There is no such device. -/
  | unavailable
  /-- The device refuses the request. -/
  | refused (text : Text)
  /-- The operating system reports a failure. -/
  | failed (text : Text)
  /-- The request fails in any other way. -/
  | raised (failure : Failure)

/-- The readings of the clock and the answers of the entropy device still to come. -/
structure Environment where
  /-- The reading of the clock at each time it is read. -/
  clock : Nat → Int
  /-- The answer of the entropy device each time it is asked. -/
  device : Nat → DeviceAnswer
  /-- How often the clock was read. -/
  clockReads : Nat
  /-- How often the device was asked. -/
  deviceReads : Nat

namespace Environment

/-- An environment of which nothing was taken. -/
def fresh (clock : Nat → Int) (device : Nat → DeviceAnswer) : Environment :=
  ⟨clock, device, 0, 0⟩

/-- Read the clock. -/
def readClock (env : Environment) : Int × Environment :=
  (env.clock env.clockReads, { env with clockReads := env.clockReads + 1 })

/-- Both halves of a clock reading folded into one number of 32 bits. -/
def foldClock (now : Int) : Int :=
  ((now / 0x100000000 % 0x100000000).toNat ^^^ (now % 0x100000000).toNat : Nat)

/-- Read the clock for a seed. -/
def clockSeed (env : Environment) : Int × Environment :=
  let (now, env) := env.readClock
  (foldClock now, env)

/-- The number of a row of bytes, the least significant first. -/
def littleEndian : List UInt8 → Nat
  | [] => 0
  | b :: rest => b.toNat + 256 * littleEndian rest

/-- Ask the entropy device for a number. -/
def readDevice (env : Environment) : Except Failure Int × Environment :=
  let answer : Except Failure Int :=
    match env.device env.deviceReads with
    | .bytes bs => .ok (littleEndian bs)
    | .unavailable => .error (.entropy .noDevice)
    | .refused text => .error (.value (.device text))
    | .failed text => .error (.system text)
    | .raised failure => .error failure
  (answer, { env with deviceReads := env.deviceReads + 1 })

end Environment

end SeedStream
