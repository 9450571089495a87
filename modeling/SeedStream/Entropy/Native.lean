import SeedStream.Entropy.Basic
import SeedStream.Entropy.Environment
import SeedStream.Entropy.Twister
import SeedStream.Seed
import SeedStream.Text.LowerCase
import SeedStream.Value
import SeedStream.Text.Blank

/-!
# The native sources

The sources that a machine offers: its entropy device, a twister and a copy of the core generator,
the latter two seeded from the clock. A source is chosen by name. The name `auto` tries the device
once and takes it if it answers, and the twister if it does not; the copy of the core generator is
only ever taken by its own name.
-/

namespace SeedStream

/-- The names under which a source can be chosen. -/
inductive SourceName
  | auto
  | os
  | mersenne
  | clock
  deriving DecidableEq, Repr

namespace SourceName

/-- The names in the order in which they are listed. -/
def all : List SourceName := [auto, os, mersenne, clock]

/-- How a name is written. -/
def text : SourceName → String
  | auto => "auto"
  | os => "os"
  | mersenne => "mersenne"
  | clock => "clock"

/-- The name that a text writes, blanks around it and capital letters allowed. -/
def parse? (t : Text) : Option SourceName :=
  all.find? fun n => n.text == Text.lower (Text.strip t)

/-- The name that a value writes. -/
def ofValue (v : Value) : Except Failure SourceName :=
  match parse? v.plain with
  | some n => .ok n
  | none => .error (.value (.unknownSource v.display))

theorem mem_all (n : SourceName) : n ∈ all := by
  cases n <;> decide

end SourceName

/-- A source that is actually there. -/
inductive SourceChoice
  | device
  | twister
  | clocked
  deriving DecidableEq, Repr

/-- The name of a source that is there. -/
def SourceChoice.name : SourceChoice → SourceName
  | device => .os
  | twister => .mersenne
  | clocked => .clock

/-- Which source a name stands for, and why. -/
structure SourceInfo where
  choice : SourceChoice
  /-- The source replays a stream that its seed fixes. -/
  replayable : Bool
  reason : Text
  deriving Repr

/-- The reason given for a source that was asked for. -/
def byName : String := "requested by name"

/-- Find the source for a name; `auto` asks the entropy device once. -/
def SourceName.describe (n : SourceName) (env : Environment) : SourceInfo × Environment :=
  match n with
  | .clock => (⟨.clocked, true, byName⟩, env)
  | .mersenne => (⟨.twister, false, byName⟩, env)
  | .os => (⟨.device, false, byName⟩, env)
  | .auto =>
    match env.readDevice with
    | (.ok _, env) => (⟨.device, false, "os entropy available"⟩, env)
    | (.error e, env) => (⟨.twister, false, "os entropy unavailable: " ++ e.message⟩, env)

/-- What a native source keeps between its words. -/
inductive NativeCore
  | device
  | twister (t : Twister)
  | clocked (s : State)

/-- A native source in its environment. -/
structure Native where
  core : NativeCore
  env : Environment

namespace Native

/-- Which source it is. -/
def choice (s : Native) : SourceChoice :=
  match s.core with
  | .device => .device
  | .twister _ => .twister
  | .clocked _ => .clocked

/-- Seed a chosen source from the clock; the device has nothing to seed. -/
def start (choice : SourceChoice) (env : Environment) : Native :=
  match choice with
  | .device => ⟨.device, env⟩
  | .twister =>
    let (seed, env) := env.clockSeed
    ⟨.twister (Twister.ofSeed seed), env⟩
  | .clocked =>
    let (seed, env) := env.clockSeed
    ⟨.clocked (State.ofSeed seed), env⟩

/-- Seed the source anew. -/
def reseed (s : Native) : Native :=
  start s.choice s.env

/-- The source's next number. -/
def draw (s : Native) : Except Failure Int × Native :=
  match s.core with
  | .device =>
    let (answer, env) := s.env.readDevice
    (answer, ⟨.device, env⟩)
  | .twister t =>
    let (w, t) := t.next
    (.ok w.toNat, ⟨.twister t, s.env⟩)
  | .clocked c => (.ok c.output.toNat, ⟨.clocked c.next, s.env⟩)

instance : EntropySource Native := ⟨reseed, draw⟩

/-- The source that a name stands for. -/
def ofName (n : SourceName) (env : Environment) : Native :=
  let (info, env) := n.describe env
  start info.choice env

end Native

end SeedStream
