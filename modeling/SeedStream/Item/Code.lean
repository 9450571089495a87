import SeedStream.Item.Basic

/-!
# Codes of items

The texts that name a type without parts: a letter or a number in its place, a letter with a size, a
moment or a span of time with its unit in square brackets, or a word. A sign for the order of the
bytes may stand before all of them but a word.
-/

namespace SeedStream.ItemType

/-- A number of some bytes, the least significant first. -/
def plainNumber (kind : NumberKind) (size : Nat) : ItemType :=
  number ⟨kind, size, false⟩

/-- The types that are known by a number, from zero on. -/
def byNumber : List ItemType :=
  [
    plainNumber .bool 1, plainNumber .integer 1, plainNumber .natural 1, plainNumber .integer 2,
    plainNumber .natural 2, plainNumber .integer 4, plainNumber .natural 4, plainNumber .integer 8,
    plainNumber .natural 8, plainNumber .integer 8, plainNumber .natural 8, plainNumber .real 4,
    plainNumber .real 8, plainNumber .real 16, plainNumber .complex 8, plainNumber .complex 16,
    plainNumber .complex 32, object, text .bytes 0 false, text .letters 0 false,
    text .blank 0 false, time false "" false, time true "" false, plainNumber .real 2
  ]

/-- The types that a letter names. A control character is the number of a type. -/
def ofLetter? (c : Char) : Option ItemType :=
  if c = '?' then some (plainNumber .bool 1)
  else if c = 'b' then some (plainNumber .integer 1)
  else if c = 'B' then some (plainNumber .natural 1)
  else if c = 'h' then some (plainNumber .integer 2)
  else if c = 'H' then some (plainNumber .natural 2)
  else if c = 'i' then some (plainNumber .integer 4)
  else if c = 'I' then some (plainNumber .natural 4)
  else if c = 'l' || c = 'q' || c = 'n' || c = 'p' then some (plainNumber .integer 8)
  else if c = 'L' || c = 'Q' || c = 'N' || c = 'P' then some (plainNumber .natural 8)
  else if c = 'e' then some (plainNumber .real 2)
  else if c = 'f' then some (plainNumber .real 4)
  else if c = 'd' then some (plainNumber .real 8)
  else if c = 'g' then some (plainNumber .real 16)
  else if c = 'F' then some (plainNumber .complex 8)
  else if c = 'D' then some (plainNumber .complex 16)
  else if c = 'G' then some (plainNumber .complex 32)
  else if c = 'M' then some (time false "" false)
  else if c = 'm' then some (time true "" false)
  else if c = 'S' || c = 'a' then some (text .bytes 0 false)
  else if c = 'c' then some (text .bytes 1 false)
  else if c = 'U' then some (text .letters 0 false)
  else if c = 'V' then some (text .blank 0 false)
  else if c = 'O' || c = 'T' then some object
  else byNumber[c.toNat]?

/-- The type that a letter and a size name. -/
def ofSized? (c : Char) (n : Nat) : Option ItemType :=
  let known (kind : NumberKind) (sizes : List Nat) : Option ItemType :=
    if sizes.contains n then some (plainNumber kind n) else none
  if c = 'b' then known .bool [1]
  else if c = 'u' then known .natural [1, 2, 4, 8]
  else if c = 'i' then known .integer [1, 2, 4, 8]
  else if c = 'f' then known .real [2, 4, 8, 16]
  else if c = 'c' then known .complex [8, 16, 32]
  else if c = 'S' || c = 'a' then some (text .bytes n false)
  else if c = 'U' then some (text .letters n false)
  else if c = 'V' then some (text .blank n false)
  else if c = 'O' && (n == 4 || n == 8) then some object
  else none

/-- The types that are called by a word. -/
def byWord : List (String × ItemType) :=
  [
    ("bool", plainNumber .bool 1), ("bool_", plainNumber .bool 1),
    ("int8", plainNumber .integer 1), ("byte", plainNumber .integer 1),
    ("int16", plainNumber .integer 2), ("short", plainNumber .integer 2),
    ("int32", plainNumber .integer 4), ("intc", plainNumber .integer 4),
    ("int64", plainNumber .integer 8), ("int", plainNumber .integer 8),
    ("int_", plainNumber .integer 8), ("intp", plainNumber .integer 8),
    ("long", plainNumber .integer 8), ("longlong", plainNumber .integer 8),
    ("uint8", plainNumber .natural 1), ("ubyte", plainNumber .natural 1),
    ("uint16", plainNumber .natural 2), ("ushort", plainNumber .natural 2),
    ("uint32", plainNumber .natural 4), ("uintc", plainNumber .natural 4),
    ("uint64", plainNumber .natural 8), ("uint", plainNumber .natural 8),
    ("uintp", plainNumber .natural 8), ("ulong", plainNumber .natural 8),
    ("ulonglong", plainNumber .natural 8),
    ("float16", plainNumber .real 2), ("half", plainNumber .real 2),
    ("float32", plainNumber .real 4), ("single", plainNumber .real 4),
    ("float64", plainNumber .real 8), ("float", plainNumber .real 8),
    ("double", plainNumber .real 8),
    ("float128", plainNumber .real 16), ("longdouble", plainNumber .real 16),
    ("complex64", plainNumber .complex 8), ("csingle", plainNumber .complex 8),
    ("complex128", plainNumber .complex 16), ("complex", plainNumber .complex 16),
    ("cdouble", plainNumber .complex 16),
    ("complex256", plainNumber .complex 32), ("clongdouble", plainNumber .complex 32),
    ("bytes", text .bytes 0 false), ("bytes_", text .bytes 0 false),
    ("str", text .letters 0 false), ("str_", text .letters 0 false),
    ("unicode", text .letters 0 false),
    ("void", text .blank 0 false),
    ("object", object), ("object_", object)
  ]

/-- A type whose numbers have their most significant byte first; single bytes have no order. -/
def bigEnded : ItemType → ItemType
  | number t => number { t with bigFirst := 1 < t.size }
  | time isSpan unit _ => time isSpan unit true
  | text kind n _ => text kind n true
  | t => t

/-! ## Sizes and units -/

/-- The greatest size and the greatest count of units that a code may write. -/
def maxSize : Nat := 0x7fffffff

/-- A blank that may stand before a size. -/
def isSizeBlank (c : Char) : Bool :=
  c == ' ' || (9 ≤ c.toNat && c.toNat ≤ 13)

/-- The integer at the start of a text and what follows it; blanks and a sign may stand before it. -/
def leadingInteger? (cs : List Char) : Option (Int × List Char) :=
  let (negative, cs) :=
    match cs.dropWhile isSizeBlank with
    | '-' :: rest => (true, rest)
    | '+' :: rest => (false, rest)
    | rest => (false, rest)
  let ds := cs.takeWhile Char.isDigit
  let n : Int := Double.digitsValue ds
  if ds.isEmpty then none else some (if negative then -n else n, cs.drop ds.length)

/-- The size that the rest of a code writes. -/
def size? (cs : List Char) : Option Nat :=
  match leadingInteger? cs with
  | some (n, []) => if 0 ≤ n ∧ n ≤ maxSize then some n.toNat else none
  | _ => none

/-- The units of time that are shown in the same way as they are written, from the longest on. -/
def timeUnits : List String :=
  ["Y", "M", "W", "D", "h", "m", "s", "ms", "us", "ns", "ps", "fs", "as", "generic"]

/-- The unit of time that a text names. -/
def unitNamed? (cs : List Char) : Option String :=
  if cs = "μs".toList then some "us" else timeUnits.find? fun u => u.toList == cs

/-- The smaller units that a unit may be divided into, with their number in it. A week is divided
    into nothing of a year if nothing else will do. -/
def smallerUnits (unit : String) : List (Nat × String) :=
  match unit with
  | "Y" => [(12, "M"), (52, "W"), (365, "D")]
  | "M" => [(4, "W"), (30, "D"), (720, "h")]
  | "W" => [(7, "D"), (168, "h"), (10080, "m"), (0, "Y")]
  | "D" => [(24, "h"), (1440, "m"), (86400, "s")]
  | "h" => [(60, "m"), (3600, "s")]
  | "m" => [(60, "s"), (60000, "ms")]
  | _ =>
    match timeUnits.dropLast.dropWhile (· != unit) with
    | _ :: next :: after :: _ => [(1000, next), (1000000, after)]
    | [_, next] => [(1000, next)]
    | _ => []

/-- A count of units, as it is shown: one is not written, and nothing stands for a unit that is not
    fixed. -/
def countedUnit (count : Int) (unit : String) : String :=
  if unit = "generic" then ""
  else "[" ++ (if count = 1 then "" else Numeral.ofInt count) ++ unit ++ "]"

/-- An integer cut down to a machine word and to half of one. -/
def shortInt (i : Int) : Int :=
  Int.bmod (max (-0x8000000000000000) (min i 0x7fffffffffffffff)) 0x100000000

/-- A part of a count of units, in smaller units unless it is all of them; `whole` is the text that
    says so. -/
def dividedUnit (whole : List Char) (count : Int) (unit : String) (divisor : Int) :
    Except Failure String :=
  let refused (fault : ArrayFault) : Except Failure String := .error (.value (.array fault))
  if divisor = 1 then .ok (countedUnit count unit)
  else if unit = "generic" then refused .loosePart
  else
    match (smallerUnits unit).find? fun s => Int.emod s.1 divisor = 0 with
    | some (parts, smaller) => .ok (countedUnit (count * (parts / divisor)) smaller)
    | none => refused (.unitPart divisor whole)

/-- The divisor behind a unit, a whole number, if there is one. -/
def divisor? (cs : List Char) : Option Int :=
  match cs with
  | [] => some 1
  | _ :: rest =>
    match leadingInteger? rest with
    | some (n, []) => some (shortInt n)
    | _ => none

/-- The unit of time in square brackets, as it is shown, with a count before it and a divisor behind
    it unless they are one. -/
def timeUnit? (cs : List Char) : Option (Except Failure String) :=
  match cs with
  | [] => some (.ok "")
  | '[' :: rest => do
    let written := rest.takeWhile (· != ']')
    let (count, unit) := (leadingInteger? written).getD (1, written)
    if written.length = rest.length || count < 0 || maxSize < count then none
    else
      let name ← unitNamed? (unit.takeWhile (· != '/'))
      let divisor ← divisor? (unit.dropWhile (· != '/'))
      match dividedUnit cs count name divisor, rest.drop written.length with
      | .ok shown, [_] => some (.ok shown)
      | .ok _, _ => none
      | .error e, _ => some (.error e)
  | _ => none

/-- The moment or the span of time that a code names. -/
def ofTimeCode? (cs : List Char) : Option (Except Failure ItemType) :=
  let code? (head : String) (isSpan : Bool) : Option (Except Failure ItemType) :=
    if head.toList.isPrefixOf cs then
      (timeUnit? (cs.drop head.length)).map (Except.map fun unit => time isSpan unit false)
    else none
  (code? "M8" false).orElse fun _ =>
    (code? "m8" true).orElse fun _ =>
      (code? "datetime64" false).orElse fun _ => code? "timedelta64" true

/-! ## Codes -/

/-- A sign for the order of bytes. -/
def isOrderSign (c : Char) : Bool :=
  c == '<' || c == '>' || c == '|' || c == '='

/-- The type that a code without a sign of order names. -/
def ofBareCode? (cs : List Char) : Option (Except Failure ItemType) :=
  match cs with
  | [] => none
  | [c] => (ofLetter? c).map .ok
  | c :: rest => (ofTimeCode? cs).orElse fun _ => ((size? rest).bind (ofSized? c)).map .ok

/-- The type that a text without parts names, unless it is refused. -/
def ofCode? (cs : List Char) : Option (Except Failure ItemType) :=
  match byWord.find? fun w => w.1.toList == cs with
  | some (_, t) => some (.ok t)
  | none =>
    match cs with
    | c :: rest =>
      if isOrderSign c then
        (ofBareCode? rest).map (Except.map fun t => if c = '>' then bigEnded t else t)
      else ofBareCode? cs
    | [] => none

end SeedStream.ItemType
