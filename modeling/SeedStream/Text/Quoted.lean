import SeedStream.Text.Letter
import SeedStream.Text.Printable

/-!
# Quoted text

A text between quotes, as messages show it. Single quotes are used unless the text holds one and
holds no double quote. The quote itself, the backslash and every letter that is not printable, half
of a pair among them, are escaped. What is shown is therefore always a row of characters.
-/

namespace SeedStream.Text

/-- The hexadecimal digit of a value below sixteen, in small letters. -/
def hexDigit (d : Nat) : Char :=
  if d < 10 then Char.ofNat (48 + d) else Char.ofNat (87 + d)

/-- The low `width` hexadecimal digits of a number, in small letters. -/
def hexDigits : Nat → Nat → List Char
  | 0, _ => []
  | width + 1, n => hexDigits width (n / 16) ++ [hexDigit (n % 16)]

/-- The escape of a code point that is not printable: the shortest of the three widths. -/
def escapeCode (n : Nat) : List Char :=
  if n < 0x100 then '\x5c' :: 'x' :: hexDigits 2 n
  else if n < 0x10000 then '\x5c' :: 'u' :: hexDigits 4 n
  else '\x5c' :: 'U' :: hexDigits 8 n

/-- The escapes that quotes of the given kind need besides those for what is not printable. -/
def shortEscape? (quote c : Char) : Option (List Char) :=
  if c = quote || c = '\x5c' then some ['\x5c', c]
  else if c = '\n' then some ['\x5c', 'n']
  else if c = '\r' then some ['\x5c', 'r']
  else if c = '\t' then some ['\x5c', 't']
  else none

/-- One letter between quotes of the given kind. -/
def quoteLetter (quote : Char) : Letter → List Char
  | .char c => (shortEscape? quote c).getD (if isPrintable c then [c] else escapeCode c.toNat)
  | .half u => escapeCode (Letter.half u).toNat

/-- The quote that a text is shown between. -/
def quoteFor (t : Text) : Char :=
  if t.contains (.char '\x27') && !t.contains (.char '\x22') then '\x22' else '\x27'

/-- A text between quotes. -/
def quoted (t : Text) : List Char :=
  let quote := quoteFor t
  quote :: (t.flatMap (quoteLetter quote) ++ [quote])

/-- Bytes between quotes: those that are printable ASCII characters are shown as such. -/
def quotedBytes (bytes : List UInt8) : List Char :=
  let cs := bytes.map fun b => Char.ofNat b.toNat
  let quote := quoteFor (ofChars cs)
  let shown (c : Char) : List Char :=
    (shortEscape? quote c).getD (if c.toNat < 127 && isPrintable c then [c] else escapeCode c.toNat)
  'b' :: quote :: (cs.flatMap shown ++ [quote])

theorem length_hexDigits (width n : Nat) : (hexDigits width n).length = width := by
  induction width generalizing n with
  | zero => rfl
  | succ width ih => simp [hexDigits, ih]

/-- A quoted text begins with its quote. -/
theorem head_quoted (t : Text) : (quoted t).head? = some (quoteFor t) := rfl

end SeedStream.Text
