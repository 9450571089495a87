import SeedStream.Numeral
import SeedStream.Text.Blank
import SeedStream.Text.Digit

/-!
# Integers in text

How a text is read as an integer. Blanks may stand around it, a sign before it, decimal digits of
any script count, and a single `_` may stand between two digits. The plain reading is decimal. The
marked reading also knows the marks `0x`, `0o` and `0b` for other bases, and refuses a decimal
numeral other than zero that begins with a zero.
-/

namespace SeedStream.Integer

/-- How the base of a numeral is found. -/
inductive Spelling
  /-- The numeral is decimal. -/
  | plain
  /-- A mark at the start of the numeral names its base. -/
  | marked
  deriving DecidableEq, Repr

/-- Why a text is not read as an integer. -/
inductive Refusal
  /-- The text is no numeral. -/
  | malformed
  /-- The numeral has more decimal digits than are read. -/
  | tooLong (digits : Nat)
  deriving DecidableEq, Repr

/-- The most decimal digits that a numeral may have. -/
def maxDigits : Nat := 4300

/-- An integer whose decimal numeral is short enough to be read again. -/
def isWritable (i : Int) : Bool :=
  (Numeral.decimal i.natAbs).length ≤ maxDigits

/-- The value of a digit in any base up to sixteen: a decimal digit of any script, or an ASCII
    letter up to `f`. -/
def digitValue? (c : Char) : Option Nat :=
  if 'a' ≤ c && c ≤ 'f' then some (c.toNat - 87)
  else if 'A' ≤ c && c ≤ 'F' then some (c.toNat - 55)
  else Text.decimalValue? c

/-- A digit of the base. -/
def isDigitOf (base : Nat) (c : Char) : Bool :=
  match digitValue? c with
  | some d => d < base
  | none => false

/-- What a row of digits holds: its value, its number of digits and the text behind it. -/
structure Row where
  /-- The value of the digits. -/
  value : Nat
  /-- The number of digits. -/
  count : Nat
  /-- What follows the row. -/
  rest : List Char
  deriving Repr

/-- Read the digits at the start of a text, where `row` holds those read so far; a `_` must stand
    between two digits. -/
def digitsFrom (base value count : Nat) : List Char → Option Row
  | [] => some ⟨value, count, []⟩
  | '_' :: d :: rest =>
    if isDigitOf base d then digitsFrom base (value * base + (digitValue? d).getD 0) (count + 1) rest
    else none
  | c :: rest =>
    if c = '_' then none
    else if isDigitOf base c then
      digitsFrom base (value * base + (digitValue? c).getD 0) (count + 1) rest
    else some ⟨value, count, c :: rest⟩

/-- The row of digits at the start of a text, which must begin with one. -/
def row? (base : Nat) (cs : List Char) : Option Row :=
  match cs with
  | [] => none
  | c :: _ => if isDigitOf base c then digitsFrom base 0 0 cs else none

/-- A numeral without sign in the given base. -/
def magnitude (base : Nat) (cs : List Char) : Except Refusal Nat :=
  match row? base cs with
  | none => .error .malformed
  | some row =>
    if base = 10 ∧ maxDigits < row.count then .error (.tooLong row.count)
    else if row.rest.isEmpty then .ok row.value
    else .error .malformed

/-- A numeral behind the mark of its base; one `_` may stand between the two. -/
def afterMark (base : Nat) : List Char → Except Refusal Nat
  | '_' :: rest => magnitude base rest
  | rest => magnitude base rest

/-- The base that a letter behind a zero marks. -/
def markBase? (c : Char) : Option Nat :=
  if c = 'x' || c = 'X' then some 16
  else if c = 'o' || c = 'O' then some 8
  else if c = 'b' || c = 'B' then some 2
  else none

/-- The first character is the digit zero of some script. -/
def startsWithZero : List Char → Bool
  | [] => false
  | c :: _ => Text.decimalValue? c == some 0

/-- A numeral without sign. -/
def unsigned (spelling : Spelling) (cs : List Char) : Except Refusal Nat :=
  match spelling with
  | .plain => magnitude 10 cs
  | .marked =>
    if startsWithZero cs then
      match cs.drop 1 with
      | c :: rest =>
        match markBase? c with
        | some base => afterMark base rest
        | none => do
          let n ← magnitude 10 cs
          if n = 0 then .ok 0 else .error .malformed
      | [] => magnitude 10 cs
    else magnitude 10 cs

/-- The integer that a text holds. -/
def parse (spelling : Spelling) (cs : List Char) : Except Refusal Int :=
  match Text.trim Text.isNumberBlank cs with
  | '-' :: rest => (unsigned spelling rest).map fun n => -(n : Int)
  | '+' :: rest => (unsigned spelling rest).map Int.ofNat
  | rest => (unsigned spelling rest).map Int.ofNat

/-- The base that a message names. -/
def Spelling.base : Spelling → Nat
  | .plain => 10
  | .marked => 0

end SeedStream.Integer
