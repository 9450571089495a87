import SeedStream.Value

/-!
# Writing JSON

A value as a JSON text in ASCII. Characters beyond ASCII are escaped, as a pair of units if one is
not enough. The text is written in one line, or spread over lines with two blanks for each level.
-/

namespace SeedStream.Json

/-- The escape of a unit. -/
def unitEscape (n : Nat) : List Char :=
  '\x5c' :: 'u' :: Text.hexDigits 4 n

/-- One character of a string. -/
def escapeChar (c : Char) : List Char :=
  if c = '\x22' then ['\x5c', '\x22']
  else if c = '\x5c' then ['\x5c', '\x5c']
  else if c = '\n' then ['\x5c', 'n']
  else if c = '\r' then ['\x5c', 'r']
  else if c = '\t' then ['\x5c', 't']
  else if c = '\x0c' then ['\x5c', 'f']
  else if c = '\x08' then ['\x5c', 'b']
  else if 32 ≤ c.toNat && c.toNat < 127 then [c]
  else if c.toNat < 0x10000 then unitEscape c.toNat
  else
    let n := c.toNat - 0x10000
    unitEscape (0xd800 + n / 0x400) ++ unitEscape (0xdc00 + n % 0x400)

/-- One letter of a string; half a pair is a unit on its own. -/
def escape : Letter → List Char
  | .char c => escapeChar c
  | .half u => unitEscape (Letter.half u).toNat

/-- A string between quotes. -/
def quoted (t : Text) : List Char :=
  '\x22' :: (t.flatMap escape ++ ['\x22'])

/-- A double; the values that are no numbers have names. -/
def real (x : Float) : List Char :=
  match Double.parts x with
  | .nan => "NaN".toList
  | .infinite false => "Infinity".toList
  | .infinite true => "-Infinity".toList
  | .finite .. => Double.text x

/-- How the parts of a list or an object are set apart. -/
structure Layout where
  /-- What opens and closes a level of the given depth, and stands between its parts. -/
  separator : Nat → List Char
  /-- What stands behind a comma. -/
  afterComma : List Char

/-- Everything in one line. -/
def Layout.line : Layout := ⟨fun _ => [], [' ']⟩

/-- Every part on a line of its own. -/
def Layout.spread : Layout := ⟨fun depth => '\n' :: List.replicate (2 * depth) ' ', []⟩

mutual

/-- The text of a value at a depth. -/
def write (layout : Layout) (depth : Nat) : Value → List Char
  | .null => "null".toList
  | .bool true => "true".toList
  | .bool false => "false".toList
  | .int i => Numeral.signed i
  | .real x => real x
  | .text s => quoted s
  | .timestamp t => quoted t.plain
  | .list [] => ['[', ']']
  | .list (v :: rest) =>
    '[' :: (layout.separator (depth + 1) ++ write layout (depth + 1) v ++
      writeItems layout (depth + 1) rest ++ layout.separator depth ++ [']'])
  | .object [] => ['\x7b', '\x7d']
  | .object ((k, v) :: rest) =>
    '\x7b' :: (layout.separator (depth + 1) ++ quoted k ++ [':', ' '] ++
      write layout (depth + 1) v ++ writeFields layout (depth + 1) rest ++
      layout.separator depth ++ ['\x7d'])

/-- The items of a list behind the first one. -/
def writeItems (layout : Layout) (depth : Nat) : List Value → List Char
  | [] => []
  | v :: rest =>
    ',' :: (layout.afterComma ++ layout.separator depth ++ write layout depth v ++
      writeItems layout depth rest)

/-- The fields of an object behind the first one. -/
def writeFields (layout : Layout) (depth : Nat) : List (Text × Value) → List Char
  | [] => []
  | (k, v) :: rest =>
    ',' :: (layout.afterComma ++ layout.separator depth ++ quoted k ++ [':', ' '] ++
      write layout depth v ++ writeFields layout depth rest)

end

/-- A value in one line. -/
def compact (v : Value) : List Char :=
  write .line 0 v

/-- A value spread over lines. -/
def pretty (v : Value) : List Char :=
  write .spread 0 v

end SeedStream.Json
