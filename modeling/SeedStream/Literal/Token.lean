import SeedStream.Json.Scanner
import SeedStream.Literal.Basic
import SeedStream.Text.CharacterName
import SeedStream.Text.Lines

/-!
# Tokens of literals

The tokens that the text of a literal falls into: numbers, texts, bytes, words, three dots and
marks. Within brackets a line end counts as a blank; outside of them it ends the text but for blank
lines and comments. A numeral may be decimal, hexadecimal, octal or binary, with a `_` between two
digits, and a decimal one may have places, an exponent and the sign `j` of imaginary numbers. A text
stands between single, double or three quotes, in which a backslash begins an escape unless an `r`
stands before them.
-/

namespace SeedStream.Literal

/-- A token of the text of a literal. -/
inductive Token
  | number (x : Literal)
  | text (t : Text)
  | bytes (bs : List UInt8)
  | word (cs : List Char)
  | dots
  | mark (c : Char)

/-! ## Numbers -/

/-- A digit of a base. -/
def isDigitOf (base : Nat) (c : Char) : Bool :=
  match Json.hexValue? c with
  | some d => d < base
  | none => false

/-- The digits at the start of a text without the bars among them, and what follows. A bar must
    stand between two digits; `behindDigit` says that one came before. -/
def digitRow? (base : Nat) (behindDigit : Bool) : List Char → Option (List Char × List Char)
  | [] => some ([], [])
  | '_' :: d :: rest =>
    if behindDigit && isDigitOf base d then
      (digitRow? base true rest).map fun r => (d :: r.1, r.2)
    else none
  | c :: rest =>
    if c = '_' then none
    else if isDigitOf base c then (digitRow? base true rest).map fun r => (c :: r.1, r.2)
    else some ([], c :: rest)

/-- A character of a word. -/
def isWordChar (c : Char) : Bool :=
  c.isAlphanum || c == '_' || 0x80 ≤ c.toNat

/-- Nothing stands right behind a number that would belong to it. -/
def endsNumber : List Char → Bool
  | [] => true
  | c :: _ => !isWordChar c

/-- The number that digits to a base write. -/
def digitsValue (base : Nat) (ds : List Char) : Nat :=
  ds.foldl (fun n d => base * n + (Json.hexValue? d).getD 0) 0

/-- The number behind the mark of its base. -/
def basedNumber? (base : Nat) (cs : List Char) : Option (Literal × List Char) := do
  let (ds, rest) ← digitRow? base true cs
  if ds.isEmpty || !endsNumber rest then none else some (.int (digitsValue base ds), rest)

/-- The places behind a point. -/
def places? (cs : List Char) : Option (List Char × List Char) :=
  match cs with
  | '.' :: '_' :: _ => none
  | '.' :: rest => (digitRow? 10 false rest).map fun r => ('.' :: r.1, r.2)
  | _ => some ([], cs)

/-- The exponent of a number, if there is one. -/
def exponent? (cs : List Char) : Option (List Char × List Char) :=
  match cs with
  | c :: rest =>
    if c = 'e' || c = 'E' then
      let (sign, ds) :=
        match rest with
        | s :: more => if s = '+' || s = '-' then ([s], more) else ([], rest)
        | [] => ([], [])
      match digitRow? 10 false ds with
      | some ([], _) => none
      | some (ds, rest) => some ('e' :: (sign ++ ds), rest)
      | none => none
    else some ([], cs)
  | [] => some ([], [])

/-- A whole number without its base: one that is not zero has no zero at its start. -/
def wholeNumber? (ds : List Char) : Option Literal :=
  if ds.head? = some '0' && ds.any (· != '0') then none
  else if Integer.maxDigits < ds.length then none
  else some (.int (digitsValue 10 ds))

/-- A decimal number. -/
def decimalNumber? (cs : List Char) : Option (Literal × List Char) := do
  let (whole, rest) ← digitRow? 10 false cs
  let (places, rest) ← places? rest
  let (exponent, rest) ← exponent? rest
  let real := Double.parse? (whole ++ places ++ exponent)
  match rest with
  | c :: more =>
    if c = 'j' || c = 'J' then
      if endsNumber more then return (.complex 0.0 (← real), more) else none
    else if !endsNumber rest then none
    else if places.isEmpty && exponent.isEmpty then return (← wholeNumber? whole, rest)
    else return (.real (← real), rest)
  | [] =>
    if places.isEmpty && exponent.isEmpty then return (← wholeNumber? whole, [])
    else return (.real (← real), [])

/-- The number at the start of a text that begins with a digit, or with a point and a digit. -/
def numeral? (cs : List Char) : Option (Literal × List Char) :=
  match cs with
  | '0' :: c :: rest =>
    if c = 'x' || c = 'X' then basedNumber? 16 rest
    else if c = 'o' || c = 'O' then basedNumber? 8 rest
    else if c = 'b' || c = 'B' then basedNumber? 2 rest
    else decimalNumber? cs
  | _ => decimalNumber? cs

/-! ## Texts and bytes -/

/-- What stands before the quotes of a text. -/
structure Opening where
  raw : Bool
  ofBytes : Bool

/-- What letters before a quote say about the text. -/
def opening? (letters : List Char) : Option Opening :=
  match letters.map Char.toLower with
  | [] => some ⟨false, false⟩
  | ['u'] => some ⟨false, false⟩
  | ['r'] => some ⟨true, false⟩
  | ['b'] => some ⟨false, true⟩
  | ['b', 'r'] => some ⟨true, true⟩
  | ['r', 'b'] => some ⟨true, true⟩
  | _ => none

/-- The characters up to the closing quotes, escapes as they are written, and what follows. -/
def upToQuote? (quote : Char) (threefold : Bool) : List Char → Option (List Char × List Char)
  | [] => none
  | '\x5c' :: c :: rest =>
    (upToQuote? quote threefold rest).map fun r => ('\x5c' :: c :: r.1, r.2)
  | c :: rest =>
    if c = quote && (!threefold || rest.take 2 == [quote, quote]) then
      some ([], if threefold then rest.drop 2 else rest)
    else if c = '\n' && !threefold then none
    else (upToQuote? quote threefold rest).map fun r => (c :: r.1, r.2)

/-- The code point of a letter behind a backslash. -/
def shortEscape? (c : Char) : Option Nat :=
  if c = '\x5c' || c = '\x27' || c = '\x22' then some c.toNat
  else if c = 'a' then some 7
  else if c = 'b' then some 8
  else if c = 't' then some 9
  else if c = 'n' then some 10
  else if c = 'v' then some 11
  else if c = 'f' then some 12
  else if c = 'r' then some 13
  else none

/-- How many hexadecimal digits follow a letter behind a backslash; two of the letters stand for
    themselves in bytes. -/
def escapeWidth? (ofBytes : Bool) (c : Char) : Option Nat :=
  if c = 'x' then some 2
  else if ofBytes then none
  else if c = 'u' then some 4
  else if c = 'U' then some 8
  else none

/-- The number of octal digits at the start of a text, three at most. -/
def octalLength (cs : List Char) : Nat :=
  ((cs.take 3).takeWhile (isDigitOf 8)).length

/-- The code point of the character whose name stands in braces at the start of a text, and how many
    characters that takes. -/
def namedEscape? (cs : List Char) : Option (Nat × Nat) :=
  match cs with
  | '\x7b' :: rest => do
    let name := rest.takeWhile (· != '\x7d')
    if name.length = rest.length then none
    else return (← Text.codePointOfName? name, name.length + 2)
  | _ => none

/-- The code points of a text whose escapes are read. The next `skip` characters belong to an escape
    that was read. -/
def unescape? (ofBytes : Bool) (skip : Nat) : List Char → Option (List Nat)
  | [] => some []
  | c :: rest =>
    match skip with
    | skip + 1 => unescape? ofBytes skip rest
    | 0 =>
      if c ≠ '\x5c' then (unescape? ofBytes 0 rest).map (c.toNat :: ·)
      else
        match rest with
        | [] => none
        | e :: more =>
          if e = '\n' then unescape? ofBytes 1 rest
          else if 0 < octalLength rest then
            let ds := rest.take (octalLength rest)
            (unescape? ofBytes ds.length rest).map (digitsValue 8 ds :: ·)
          else
            match escapeWidth? ofBytes e with
            | some width =>
              let ds := more.take width
              let n := digitsValue 16 ds
              if ds.length < width || !ds.all (isDigitOf 16) || 0x110000 ≤ n then none
              else (unescape? ofBytes (width + 1) rest).map (n :: ·)
            | none =>
              if e = 'N' && !ofBytes then do
                let (n, length) ← namedEscape? more
                (unescape? ofBytes (length + 1) rest).map (n :: ·)
              else
                match shortEscape? e with
                | some n => (unescape? ofBytes 1 rest).map (n :: ·)
                | none => (unescape? ofBytes 0 rest).map ('\x5c'.toNat :: ·)

/-- The text or the bytes that characters between quotes write. -/
def content? (o : Opening) (cs : List Char) : Option Token := do
  if o.ofBytes && cs.any fun c => 0x80 ≤ c.toNat then none
  else
    let points ← if o.raw then some (cs.map Char.toNat) else unescape? o.ofBytes 0 cs
    if o.ofBytes then return .bytes (points.map UInt8.ofNat)
    else return .text (points.map Letter.ofNat)

/-- The text or the bytes at a quote, behind the letters that open them. -/
def quotedToken? (letters : List Char) (cs : List Char) : Option (Token × List Char) := do
  let o ← opening? letters
  match cs with
  | q :: rest =>
    let threefold := rest.take 2 == [q, q]
    let (written, rest) ← upToQuote? q threefold (if threefold then rest.drop 2 else rest)
    return (← content? o written, rest)
  | [] => none

/-! ## Tokens -/

/-- A quote of a text. -/
def isQuote (c : Char) : Bool :=
  c == '\x27' || c == '\x22'

/-- The token at the start of a text that begins with no blank. -/
def token? (cs : List Char) : Option (Token × List Char) :=
  match cs with
  | [] => none
  | c :: rest =>
    if isQuote c then quotedToken? [] cs
    else if c.isDigit || (c == '.' && (rest.head?.map Char.isDigit).getD false) then
      (numeral? cs).map fun r => (.number r.1, r.2)
    else if isWordChar c then
      let word := cs.takeWhile isWordChar
      let rest := cs.dropWhile isWordChar
      if (rest.head?.map isQuote).getD false then quotedToken? word rest else some (.word word, rest)
    else if ['.', '.', '.'].isPrefixOf cs then some (.dots, cs.drop 3)
    else if "()[]\x7b\x7d,:+-".toList.contains c then some (.mark c, rest)
    else none

/-- A blank within a line. -/
def isLineBlank (c : Char) : Bool :=
  c == ' ' || c == '\t' || c == '\x0c'

/-- What follows a line, its end included. -/
def behindLine (cs : List Char) : List Char :=
  cs.dropWhile (· != '\n')

/-- The column at which a line begins, and what it begins with. A line that is carried on begins
    where its first part does; one that is carried on beyond the end begins nowhere. -/
def indentation (column : Nat) : List Char → Nat × List Char
  | ' ' :: rest => indentation (column + 1) rest
  | '\t' :: rest => indentation (column + 1) rest
  | '\x0c' :: rest => indentation 0 rest
  | '\x5c' :: '\n' :: rest =>
    if rest.isEmpty then (1, [])
    else
      let (next, rest) := indentation 0 rest
      (if column = 0 then next else column, rest)
  | rest => (column, rest)

/-- There is nothing but blank lines and comments on lines of their own. The text may not end with
    blanks behind a line end. -/
def isIdle : Nat → List Char → Bool
  | 0, _ => false
  | fuel + 1, cs =>
    let (column, rest) := indentation 0 cs
    match rest with
    | [] => column == 0
    | '\n' :: rest => isIdle fuel rest
    | '#' :: _ => isIdle fuel (behindLine rest |>.drop 1)
    | _ => false

/-- The most brackets that may be open at once. -/
def maxLevels : Nat := 200

/-- The number of open brackets behind a token, if it may stand there. -/
def levelsBehind? (levels : Nat) : Token → Option Nat
  | .mark c =>
    if c = '(' || c = '[' || c = '\x7b' then if levels < maxLevels then some (levels + 1) else none
    else if c = ')' || c = ']' || c = '\x7d' then if levels = 0 then none else some (levels - 1)
    else some levels
  | _ => some levels

/-- The tokens of a text within `levels` brackets; `fresh` says that a line begins here, and `fuel`
    exceeds the length of the text. -/
def tokensFrom : Nat → Bool → Nat → List Char → Option (List Token)
  | 0, _, _, _ => none
  | fuel + 1, fresh, levels, cs =>
    if fresh then
      let (column, cs) := indentation 0 cs
      match cs with
      | [] => if column = 0 then some [] else none
      | '\n' :: rest => tokensFrom fuel true levels rest
      | '#' :: _ => tokensFrom fuel true levels (behindLine cs |>.drop 1)
      | _ => if column = 0 then tokensFrom fuel false levels cs else none
    else
      match cs with
      | [] => if levels = 0 then some [] else none
      | '#' :: _ => tokensFrom fuel false levels (behindLine cs)
      | '\x5c' :: '\n' :: rest => if rest.isEmpty then none else tokensFrom fuel false levels rest
      | c :: rest =>
        if isLineBlank c then tokensFrom fuel false levels rest
        else if c = '\n' then
          if 0 < levels then tokensFrom fuel false levels rest
          else if isIdle (rest.length + 1) rest then some []
          else none
        else do
          let (token, rest) ← token? (c :: rest)
          let levels ← levelsBehind? levels token
          let tokens ← tokensFrom fuel false levels rest
          return token :: tokens

/-- The text of a literal with line feeds between its lines, without the blanks before it. -/
def lined (cs : List Char) : List Char :=
  Text.unifyNewlines (cs.dropWhile fun c => c == ' ' || c == '\t')

/-- The tokens of the text of a literal. -/
def tokens? (cs : List Char) : Option (List Token) :=
  let cs := lined cs
  tokensFrom (2 * cs.length + 2) true 0 cs

end SeedStream.Literal
