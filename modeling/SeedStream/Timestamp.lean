import SeedStream.Numeral
import SeedStream.Text.Pieces

/-!
# Timestamps

A day of the calendar, perhaps with a time of day and the zone that the time belongs to. A timestamp
has a plain text, from the year down to the zone, and a shown text that names what it is made of.
-/

namespace SeedStream

/-- A part of a timestamp that is out of its range. -/
inductive CalendarFault
  | year (n : Nat)
  | month
  | day
  | hour
  | minute
  | second
  /-- A zone that is a day or more ahead or behind, in minutes. -/
  | zone (minutes : Int)
  deriving DecidableEq, Repr

/-- A day of the calendar. -/
structure Day where
  year : Nat
  month : Nat
  day : Nat
  deriving DecidableEq, Repr

/-- A time of day. -/
structure Clock where
  hour : Nat
  minute : Nat
  second : Nat
  micro : Nat
  /-- How many minutes the clock is ahead of universal time, if it is known. -/
  zone : Option Int
  deriving DecidableEq, Repr

/-- A day, perhaps with a time. -/
structure Timestamp where
  day : Day
  time : Option Clock
  deriving DecidableEq, Repr

/-! ## Ranges -/

/-- A year has a day more every four years, but not at the end of a century unless four divides
    that. -/
def isLeapYear (year : Nat) : Bool :=
  year % 4 == 0 && (year % 100 != 0 || year % 400 == 0)

/-- How many days a month has. -/
def daysOfMonth (year month : Nat) : Nat :=
  if month = 2 then if isLeapYear year then 29 else 28
  else if [4, 6, 9, 11].contains month then 30
  else 31

/-- The day is in the calendar. -/
def Day.check (d : Day) : Except CalendarFault Unit :=
  if d.year = 0 then .error (.year d.year)
  else if d.month = 0 ∨ 12 < d.month then .error .month
  else if d.day = 0 ∨ daysOfMonth d.year d.month < d.day then .error .day
  else .ok ()

/-- The zone is less than a day ahead or behind. -/
def Clock.checkZone (c : Clock) : Except CalendarFault Unit :=
  match c.zone with
  | some minutes => if minutes.natAbs < 1440 then .ok () else .error (.zone minutes)
  | none => .ok ()

/-- The clock shows a time of a day. -/
def Clock.check (c : Clock) : Except CalendarFault Unit :=
  if 24 ≤ c.hour then .error .hour
  else if 60 ≤ c.minute then .error .minute
  else if 60 ≤ c.second then .error .second
  else .ok ()

/-- All parts of the timestamp are in their ranges. The zone is looked at first. -/
def Timestamp.check (t : Timestamp) : Except CalendarFault Unit :=
  match t.time with
  | none => t.day.check
  | some c => do
    c.checkZone
    t.day.check
    c.check

/-! ## Plain text -/

/-- A number with zeros before it up to a width. -/
def filledNumber (width n : Nat) : List Char :=
  Numeral.padZeros width (Numeral.decimal n)

/-- The plain text of a day. -/
def Day.plain (d : Day) : List Char :=
  Text.joined '-' [filledNumber 4 d.year, filledNumber 2 d.month, filledNumber 2 d.day]

/-- The plain text of a zone. -/
def zonePlain (minutes : Int) : List Char :=
  let size := minutes.natAbs
  (if minutes < 0 then '-' else '+') :: Text.joined ':' [filledNumber 2 (size / 60), filledNumber 2 (size % 60)]

/-- The plain text of a time; no fraction of a second is written if it is zero. -/
def Clock.plain (c : Clock) : List Char :=
  Text.joined ':' [filledNumber 2 c.hour, filledNumber 2 c.minute, filledNumber 2 c.second] ++
    (if c.micro = 0 then [] else '.' :: filledNumber 6 c.micro) ++ (c.zone.map zonePlain).getD []

/-- The plain text of a timestamp. -/
def Timestamp.plain (t : Timestamp) : List Char :=
  t.day.plain ++ (t.time.map fun c => ' ' :: c.plain).getD []

/-! ## Shown text -/

/-- The text of something made of parts. -/
def madeOf (name : String) (parts : List (List Char)) : List Char :=
  name.toList ++ '(' :: ((", ".toList.intercalate parts) ++ [')'])

/-- A part with its name. -/
def namedPart (name : String) (text : List Char) : List Char :=
  name.toList ++ '=' :: text

/-- The shown text of a span of minutes: whole days, and the seconds behind them. -/
def spanShown (minutes : Int) : List Char :=
  let days := Int.fdiv minutes 1440
  let seconds := 60 * Int.fmod minutes 1440
  let parts := (if days = 0 then [] else [namedPart "days" (Numeral.signed days)]) ++
    (if seconds = 0 then [] else [namedPart "seconds" (Numeral.signed seconds)])
  madeOf "datetime.timedelta" (if parts.isEmpty then [['0']] else parts)

/-- The shown text of a zone. -/
def zoneShown (minutes : Int) : List Char :=
  if minutes = 0 then "datetime.timezone.utc".toList else madeOf "datetime.timezone" [spanShown minutes]

/-- The parts of a day. -/
def Day.parts (d : Day) : List (List Char) :=
  [d.year, d.month, d.day].map Numeral.decimal

/-- The parts of a time. Seconds and their fraction are left out if nothing but zeros would stand
    there. -/
def Clock.parts (c : Clock) : List (List Char) :=
  let seconds :=
    if c.micro ≠ 0 then [c.second, c.micro] else if c.second ≠ 0 then [c.second] else []
  (c.hour :: c.minute :: seconds).map Numeral.decimal ++
    (c.zone.map fun z => [namedPart "tzinfo" (zoneShown z)]).getD []

/-- The shown text of a timestamp. -/
def Timestamp.shown (t : Timestamp) : List Char :=
  match t.time with
  | none => madeOf "datetime.date" t.day.parts
  | some c => madeOf "datetime.datetime" (t.day.parts ++ c.parts)

/-! ## Messages -/

/-- The message for a part that is out of its range. -/
def CalendarFault.message : CalendarFault → String
  | year n => "year " ++ Numeral.ofNat n ++ " is out of range"
  | month => "month must be in 1..12"
  | day => "day is out of range for month"
  | hour => "hour must be in 0..23"
  | minute => "minute must be in 0..59"
  | second => "second must be in 0..59"
  | zone minutes =>
    "offset must be a timedelta strictly between -timedelta(hours=24) and timedelta(hours=24), not " ++
      String.ofList (spanShown minutes) ++ "."

/-- A day of the calendar lies in one of its months. -/
theorem Day.check_eq_ok_iff {d : Day} :
    d.check = .ok () ↔ 0 < d.year ∧ 1 ≤ d.month ∧ d.month ≤ 12 ∧ 1 ≤ d.day ∧ d.day ≤ daysOfMonth d.year d.month := by
  unfold Day.check
  split
  · simp; omega
  · split
    · simp; omega
    · split
      · simp; omega
      · simp; omega

end SeedStream
