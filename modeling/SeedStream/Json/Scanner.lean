import SeedStream.Argument

/-!
# The leaves of JSON

Strings and numbers of a JSON text, read from a place in it. A place is what is left of the text
together with the number of characters before it, which error messages name.
-/

namespace SeedStream.Json

/-- A place in a text. -/
structure Place where
  /-- The number of characters before the place. -/
  position : Nat
  /-- The text from the place on. -/
  rest : List Char

/-- Why a text is refused. -/
inductive Refusal
  /-- Something is missing at a position. -/
  | fault (fault : JsonFault) (position : Nat)
  /-- A numeral has too many digits. -/
  | longInteger (digits : Nat)
  /-- Too many lists and objects lie within one another; the innermost is an object or not. -/
  | depth (ofObject : Bool)

/-- A blank of JSON. -/
def isBlank (c : Char) : Bool :=
  c == ' ' || c == '\t' || c == '\n' || c == '\r'

/-- The place behind the blanks. -/
def Place.skipBlanks (p : Place) : Place :=
  let blanks := p.rest.takeWhile isBlank
  ⟨p.position + blanks.length, p.rest.dropWhile isBlank⟩

/-- The place a number of characters further on. -/
def Place.skip (p : Place) (n : Nat) : Place :=
  ⟨p.position + n, p.rest.drop n⟩

/-! ## Strings -/

/-- The value of a hexadecimal digit. -/
def hexValue? (c : Char) : Option Nat :=
  if '0' ≤ c && c ≤ '9' then some (c.toNat - 48)
  else if 'a' ≤ c && c ≤ 'f' then some (c.toNat - 87)
  else if 'A' ≤ c && c ≤ 'F' then some (c.toNat - 55)
  else none

/-- The number that four hexadecimal digits write. -/
def unit? (a b c d : Char) : Option Nat := do
  let a ← hexValue? a
  let b ← hexValue? b
  let c ← hexValue? c
  let d ← hexValue? d
  return ((a * 16 + b) * 16 + c) * 16 + d

/-- The first half of a pair of units that names one character. -/
def isHighUnit (n : Nat) : Bool :=
  0xd800 ≤ n && n ≤ 0xdbff

/-- The second half of a pair of units that names one character. -/
def isLowUnit (n : Nat) : Bool :=
  0xdc00 ≤ n && n ≤ 0xdfff

/-- The letter of a pair of units. -/
def letterOfPair (high low : Nat) : Letter :=
  .ofNat (0x10000 + (high - 0xd800) * 0x400 + (low - 0xdc00))

/-- The character that a single letter behind a backslash stands for. -/
def escapeOf? (c : Char) : Option Char :=
  if c = '\x22' || c = '\x5c' || c = '/' then some c
  else if c = 'b' then some '\x08'
  else if c = 'f' then some '\x0c'
  else if c = 'n' then some '\n'
  else if c = 'r' then some '\r'
  else if c = 't' then some '\t'
  else none

/-- Four hexadecimal digits with a character behind them. -/
def fourDigits? : List Char → Option (Option Nat × List Char)
  | a :: b :: c :: d :: rest => if rest.isEmpty then none else some (unit? a b c d, rest)
  | _ => none

/-- The letter that stands behind the backslash at `position`, with the number of characters of the whole
    escape; `start` is where the string began. -/
def escaped (start position : Nat) (cs : List Char) : Except Refusal (Letter × Nat) :=
  match cs with
  | [] => .error (.fault .unterminated start)
  | c :: rest =>
    if c = 'u' then
      match fourDigits? rest with
      | some (some high, more) =>
        let alone := .ok (.ofNat high, 6)
        if !isHighUnit high || more.take 2 != ['\x5c', 'u'] then alone
        else
          match fourDigits? (more.drop 2) with
          | some (some low, _) => if isLowUnit low then .ok (letterOfPair high low, 12) else alone
          | some (none, _) => .error (.fault .unicodeEscape (position + 7))
          | none => alone
      | _ => .error (.fault .unicodeEscape (position + 1))
    else
      match escapeOf? c with
      | some e => .ok (.char e, 2)
      | none => .error (.fault .escape position)

/-- The rest of a string that began at `start`. The next `skip` characters belong to an escape that
    was read, `position` characters come before, and `done` holds the letters of the string, last
    first. -/
def stringFrom (start position skip : Nat) (done : Text) :
    List Char → Except Refusal (Text × Place)
  | [] => .error (.fault .unterminated start)
  | c :: rest =>
    match skip with
    | skip + 1 => stringFrom start (position + 1) skip done rest
    | 0 =>
      if c = '\x22' then .ok (done.reverse, ⟨position + 1, rest⟩)
      else if c = '\x5c' then
        match escaped start position rest with
        | .ok (e, size) => stringFrom start (position + 1) (size - 1) (e :: done) rest
        | .error e => .error e
      else if c.toNat < 0x20 then .error (.fault .control position)
      else stringFrom start (position + 1) 0 (.char c :: done) rest

/-- The string that begins at a place, behind its opening quote. -/
def string (p : Place) : Except Refusal (Text × Place) :=
  stringFrom (p.position - 1) p.position 0 [] p.rest

/-! ## Numbers -/

/-- The digits at the start of a text and what follows them. -/
def digits (cs : List Char) : List Char × List Char :=
  (cs.takeWhile Char.isDigit, cs.dropWhile Char.isDigit)

/-- The digits before the point: a zero stands alone. -/
def wholeDigits? (cs : List Char) : Option (List Char × List Char) :=
  match cs with
  | [] => none
  | c :: rest =>
    if c = '0' then some ([c], rest)
    else if c.isDigit then some (digits cs)
    else none

/-- The point and the digits behind it, if both are there. -/
def places (cs : List Char) : List Char × List Char :=
  match cs with
  | '.' :: rest =>
    let (ds, more) := digits rest
    if ds.isEmpty then ([], cs) else ('.' :: ds, more)
  | _ => ([], cs)

/-- The exponent, if it is there and has a digit. -/
def exponentPart (cs : List Char) : List Char × List Char :=
  match cs with
  | c :: rest =>
    if c = 'e' || c = 'E' then
      let (sign, more) :=
        match rest with
        | s :: more => if s = '-' || s = '+' then ([s], more) else ([], rest)
        | [] => ([], [])
      let (ds, more) := digits more
      if ds.isEmpty then ([], cs) else (c :: (sign ++ ds), more)
    else ([], cs)
  | [] => ([], [])

/-- The number that begins at a place, if one does. A number with a point or an exponent is a
    double. -/
def number (p : Place) : Except Refusal (Value × Place) :=
  let negative := p.rest.head? == some '-'
  let unsigned := if negative then p.rest.drop 1 else p.rest
  match wholeDigits? unsigned with
  | none => .error (.fault .value p.position)
  | some (whole, rest) =>
    let (behind, rest) := places rest
    let (exponent, rest) := exponentPart rest
    let written := (if negative then ['-'] else []) ++ whole ++ behind ++ exponent
    let next : Place := ⟨p.position + written.length, rest⟩
    if behind.isEmpty && exponent.isEmpty then
      if Integer.maxDigits < whole.length then .error (.longInteger whole.length)
      else
        let n : Int := Double.digitsValue whole
        .ok (.int (if negative then -n else n), next)
    else
      match Double.parse? written with
      | some x => .ok (.real x, next)
      | none => .error (.fault .value p.position)

end SeedStream.Json
