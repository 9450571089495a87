import SeedStream.Timestamp

/-!
# Timestamps of YAML

How YAML 1.1 writes a timestamp without quotes: a day whose month and day have two digits, or a day
and a time behind a `T` or blanks. The time may have a fraction of a second, of which six digits
count, and a zone: `Z` or hours, perhaps with minutes, ahead of universal time or behind it.
-/

namespace SeedStream.Yaml

/-- A blank within a line. -/
def isLineBlank (c : Char) : Bool :=
  c == ' ' || c == '\t'

/-- The number that decimal digits write. -/
def decimalNumber (ds : List Char) : Nat :=
  ds.foldl (fun n d => 10 * n + (d.toNat - '0'.toNat)) 0

/-- A number of `least` to `most` decimal digits, and what follows it. -/
def number? (least most : Nat) (cs : List Char) : Option (Nat × List Char) :=
  let ds := (cs.take most).takeWhile Char.isDigit
  if ds.length < least then none else some (decimalNumber ds, cs.drop ds.length)

/-- What follows a mark. -/
def behindMark? (mark : Char) : List Char → Option (List Char)
  | [] => none
  | c :: rest => if c = mark then some rest else none

/-- The day at the start of a text, whose month and day have `least` digits or two. -/
def day? (least : Nat) (cs : List Char) : Option (Day × List Char) := do
  let (year, cs) ← number? 4 4 cs
  let cs ← behindMark? '-' cs
  let (month, cs) ← number? least 2 cs
  let cs ← behindMark? '-' cs
  let (day, cs) ← number? least 2 cs
  return (⟨year, month, day⟩, cs)

/-- What follows the mark between a day and a time. -/
def behindDay? : List Char → Option (List Char)
  | [] => none
  | c :: rest =>
    if c = 'T' ∨ c = 't' then some rest
    else if isLineBlank c then some (rest.dropWhile isLineBlank)
    else none

/-- The millionths of a second behind a point, if there is one, and what follows them. -/
def fraction (cs : List Char) : Nat × List Char :=
  match cs with
  | '.' :: rest =>
    let ds := rest.takeWhile Char.isDigit
    (decimalNumber ((ds ++ List.replicate 6 '0').take 6), rest.drop ds.length)
  | _ => (0, cs)

/-- The zone that a sign and the rest of a text write, in minutes. -/
def signedZone? (negative : Bool) (cs : List Char) : Option Int := do
  let (hours, cs) ← number? 1 2 cs
  let minutes ←
    match cs with
    | [] => some 0
    | _ =>
      match (behindMark? ':' cs).bind (number? 2 2) with
      | some (minutes, []) => some minutes
      | _ => none
  let size : Int := 60 * hours + minutes
  return if negative then -size else size

/-- The zone that the rest of a text writes; there may be none. -/
def zone? (cs : List Char) : Option (Option Int) :=
  if cs.isEmpty then some none
  else
    match cs.dropWhile isLineBlank with
    | ['Z'] => some (some 0)
    | '+' :: rest => (signedZone? false rest).map some
    | '-' :: rest => (signedZone? true rest).map some
    | _ => none

/-- The time that a text writes. -/
def clock? (cs : List Char) : Option Clock := do
  let (hour, cs) ← number? 1 2 cs
  let cs ← behindMark? ':' cs
  let (minute, cs) ← number? 2 2 cs
  let cs ← behindMark? ':' cs
  let (second, cs) ← number? 2 2 cs
  let (micro, cs) := fraction cs
  return ⟨hour, minute, second, micro, ← zone? cs⟩

/-- The timestamp that a scalar writes, if it does. -/
def timestamp? (cs : List Char) : Option Timestamp :=
  match day? 2 cs with
  | some (day, []) => some ⟨day, none⟩
  | _ => do
    let (day, cs) ← day? 1 cs
    return ⟨day, some (← clock? (← behindDay? cs))⟩

end SeedStream.Yaml
