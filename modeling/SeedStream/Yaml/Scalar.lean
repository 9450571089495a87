import SeedStream.Argument
import SeedStream.Json.Scanner
import SeedStream.Text.Pieces
import SeedStream.Yaml.Timestamp

/-!
# Scalars of YAML

What a scalar without quotes stands for by the rules of YAML 1.1: nothing, a truth value, an
integer, a double, a timestamp or, failing these, a text. Integers are decimal, or binary, octal or
hexadecimal behind `0b`, `0` or `0x`, or rows of parts to base sixty; `_` may stand among digits. A
double needs a point, and its exponent a sign. Scalars between quotes are always texts.
-/

namespace SeedStream.Yaml

/-- The scalars that stand for nothing. -/
def nullWords : List String := ["", "~", "null", "Null", "NULL"]

/-- The scalars that stand for true. -/
def trueWords : List String := ["yes", "Yes", "YES", "true", "True", "TRUE", "on", "On", "ON"]

/-- The scalars that stand for false. -/
def falseWords : List String := ["no", "No", "NO", "false", "False", "FALSE", "off", "Off", "OFF"]

/-- A scalar is one of a row of words. -/
def isOneOf (words : List String) (cs : List Char) : Bool :=
  words.any fun w => w.toList == cs

/-- A number without its sign, and whether the sign was a minus. -/
def splitSign : List Char → Bool × List Char
  | '-' :: rest => (true, rest)
  | '+' :: rest => (false, rest)
  | rest => (false, rest)

/-- Among digits, a `_` counts as one. -/
def orBar (isDigit : Char → Bool) (c : Char) : Bool :=
  c == '_' || isDigit c

/-- A row that is not empty, of characters of one class. -/
def isRow (p : Char → Bool) (cs : List Char) : Bool :=
  !cs.isEmpty && cs.all p

/-- A row without its bars. -/
def withoutBars (cs : List Char) : List Char :=
  cs.filter (· != '_')

/-- A part to base sixty behind the first one. -/
def isSixtieth : List Char → Bool
  | [d] => d.isDigit
  | [t, d] => '0' ≤ t && t ≤ '5' && d.isDigit
  | _ => false

/-! ## Integers -/

/-- How an integer is written. -/
inductive IntegerForm
  /-- Digits to a base. -/
  | digits (base : Nat) (row : List Char)
  /-- Decimal parts to base sixty. -/
  | sixtieths (parts : List (List Char))

/-- A decimal digit that is not zero. -/
def isLeading (c : Char) : Bool :=
  '1' ≤ c && c ≤ '9'

/-- How a scalar without sign writes an integer, if it does. -/
def integerForm? (cs : List Char) : Option IntegerForm :=
  match cs with
  | ['0'] => some (.digits 10 cs)
  | '0' :: 'b' :: row =>
    if isRow (orBar fun c => c == '0' || c == '1') row then some (.digits 2 row) else none
  | '0' :: 'x' :: row =>
    if isRow (orBar fun c => (Json.hexValue? c).isSome) row then some (.digits 16 row) else none
  | '0' :: row =>
    if isRow (orBar fun c => '0' ≤ c && c ≤ '7') row then some (.digits 8 ('0' :: row)) else none
  | c :: row =>
    if !isLeading c then none
    else if row.all (orBar Char.isDigit) then some (.digits 10 cs)
    else
      match Text.pieces ':' cs with
      | first :: second :: rest =>
        if first.all (orBar Char.isDigit) && (second :: rest).all isSixtieth then
          some (.sixtieths (first :: second :: rest))
        else none
      | _ => none
  | [] => none

/-- The number that digits to a base write. -/
def digitsNumber (base : Nat) (row : List Char) : Except Failure Nat :=
  let ds := withoutBars row
  if ds.isEmpty then .error (.value (.integerText base ""))
  else if base = 10 ∧ Integer.maxDigits < ds.length then .error (.value (.longInteger ds.length))
  else .ok (ds.foldl (fun n c => base * n + (Json.hexValue? c).getD 0) 0)

/-- The number that a scalar without sign writes. -/
def IntegerForm.number : IntegerForm → Except Failure Nat
  | digits base row => digitsNumber base row
  | sixtieths parts => do
    let ns ← parts.mapM (digitsNumber 10)
    return ns.foldl (fun n k => 60 * n + k) 0

/-! ## Doubles -/

/-- An exponent: a mark, a sign and digits. -/
def isExponent : List Char → Bool
  | mark :: sign :: ds => (mark == 'e' || mark == 'E') && (sign == '-' || sign == '+') && isRow Char.isDigit ds
  | _ => false

/-- Places behind a point, and perhaps an exponent. -/
def isFraction (cs : List Char) : Bool :=
  let tail := cs.dropWhile (orBar Char.isDigit)
  tail.isEmpty || isExponent tail

/-- The scalar without sign writes a decimal number with a point behind its first digits. -/
def isPointed (cs : List Char) : Bool :=
  (cs.head?.map Char.isDigit).getD false &&
    match cs.dropWhile (orBar Char.isDigit) with
    | '.' :: rest => isFraction rest
    | _ => false

/-- The scalar writes a decimal number that begins with its point. -/
def isBarePoint : List Char → Bool
  | '.' :: d :: rest => d.isDigit && isFraction rest
  | _ => false

/-- The parts to base sixty of a scalar without sign, the last of them with places behind a point. -/
def sixtiethsWithPoint? (cs : List Char) : Option (List (List Char)) :=
  let whole := cs.takeWhile (· != '.')
  match cs.dropWhile (· != '.') with
  | '.' :: places =>
    match Text.pieces ':' whole with
    | first :: second :: rest =>
      if (first.head?.map Char.isDigit).getD false && first.all (orBar Char.isDigit) &&
          (second :: rest).all isSixtieth && places.all (orBar Char.isDigit) then
        some (Text.pieces ':' cs)
      else none
    | _ => none
  | _ => none

/-- The double that decimal digits with a point write. -/
def pointedNumber (cs : List Char) : Float :=
  (Double.parse? (withoutBars cs)).getD 0.0

/-- The double of a row of parts to base sixty, last part first, added to a sum; the first part
    counts `scale` times. -/
def sixtiethsSum (sum : Float) (scale : Nat) : List (List Char) → Except Failure Float
  | [] => .ok sum
  | part :: rest =>
    match Double.ofInt? scale with
    | some factor => sixtiethsSum (sum + pointedNumber part * factor) (60 * scale) rest
    | none => .error (.range .real)

/-- The double of a row of parts to base sixty, summed up from the last one. -/
def sixtiethsNumber (parts : List (List Char)) : Except Failure Float :=
  sixtiethsSum 0.0 1 parts.reverse

/-- The double that a scalar writes, if it does. -/
def real? (cs : List Char) : Option (Except Failure Float) :=
  let (negative, size) := splitSign cs
  let signed (x : Float) : Float := if negative then -x else x
  if isPointed size then some (.ok (signed (pointedNumber size)))
  else if isBarePoint cs then some (.ok (pointedNumber cs))
  else if isOneOf [".inf", ".Inf", ".INF"] size then
    some (.ok (signed (Float.ofBits (UInt64.ofNat Double.infinityBits))))
  else if isOneOf [".nan", ".NaN", ".NAN"] cs then some (.ok (Float.ofBits 0x7ff8000000000000))
  else (sixtiethsWithPoint? size).map fun parts => (sixtiethsNumber parts).map signed

/-! ## Scalars -/

/-- The value of a scalar without quotes. -/
def scalar (cs : List Char) : Except Failure Value :=
  if isOneOf nullWords cs then .ok .null
  else if isOneOf trueWords cs then .ok (.bool true)
  else if isOneOf falseWords cs then .ok (.bool false)
  else
    match real? cs with
    | some number => number.map .real
    | none =>
      let (negative, size) := splitSign cs
      match integerForm? size with
      | some form => form.number.map fun n => .int (if negative then -(n : Int) else n)
      | none =>
        match timestamp? cs with
        | some t => (t.check.mapError fun e => .value (.calendar e)).map fun _ => .timestamp t
        | none => .ok (.text cs)

/-- The text between single quotes, behind the first of them: a quote in it is written twice. -/
def singleQuoted? : List Char → Option (Text × List Char)
  | [] => none
  | '\x27' :: '\x27' :: rest => (singleQuoted? rest).map fun r => (.char '\x27' :: r.1, r.2)
  | c :: rest =>
    if c = '\x27' then some ([], rest) else (singleQuoted? rest).map fun r => (.char c :: r.1, r.2)

/-- The letters behind a backslash and the characters they stand for. -/
def escapes : List (Char × Char) :=
  [('0', '\x00'), ('a', '\x07'), ('b', '\x08'), ('t', '\t'), ('\t', '\t'), ('n', '\n'), ('v', '\x0b'),
    ('f', '\x0c'), ('r', '\r'), ('e', '\x1b'), (' ', ' '), ('\x22', '\x22'), ('\x5c', '\x5c'), ('/', '/'),
    ('N', Char.ofNat 0x85), ('_', Char.ofNat 0xa0), ('L', Char.ofNat 0x2028), ('P', Char.ofNat 0x2029)]

/-- How many hexadecimal digits follow a letter behind a backslash. -/
def escapeWidth? (c : Char) : Option Nat :=
  if c = 'x' then some 2 else if c = 'u' then some 4 else if c = 'U' then some 8 else none

/-- The letter that hexadecimal digits name. -/
def namedLetter? (width : Nat) (cs : List Char) : Option Letter := do
  let ds := cs.take width
  if ds.length < width then none
  else
    let values ← ds.mapM Json.hexValue?
    return Letter.ofNat (values.foldl (fun n d => 16 * n + d) 0)

/-- The text between double quotes, behind the first of them. The next `skip` characters belong to
    an escape that was read. -/
def doubleQuoted? (skip : Nat) : List Char → Option (Text × List Char)
  | [] => none
  | c :: rest =>
    match skip with
    | skip + 1 => doubleQuoted? skip rest
    | 0 =>
      if c = '\x22' then some ([], rest)
      else if c = '\x5c' then
        match rest with
        | [] => none
        | e :: more =>
          match escapeWidth? e with
          | some width =>
            match namedLetter? width more, doubleQuoted? (width + 1) rest with
            | some d, some r => some (d :: r.1, r.2)
            | _, _ => none
          | none =>
            match escapes.find? fun f => f.1 == e, doubleQuoted? 1 rest with
            | some f, some r => some (.char f.2 :: r.1, r.2)
            | _, _ => none
      else (doubleQuoted? 0 rest).map fun r => (.char c :: r.1, r.2)

/-- The text of a scalar between quotes, and what follows it. -/
def quoted? : List Char → Option (Text × List Char)
  | '\x27' :: rest => singleQuoted? rest
  | '\x22' :: rest => doubleQuoted? 0 rest
  | _ => none

end SeedStream.Yaml
