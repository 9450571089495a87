import SeedStream.Failure
import SeedStream.Text.Blank

/-!
# Long integers

Older files write an `L` behind long integers. Their text is cut into pieces, the pieces `L` right
behind a number are left out, and the others are put together again, each at the line and column at
which it stood; what was blank before a piece becomes spaces. Text within brackets or quotes that
do not end, and a line that is set in less than the one above but as much as none, are refused.
-/

namespace SeedStream.Literal.LongMark

/-- What a piece of a text is. -/
inductive PieceKind
  | number
  | name
  | lineEnd
  /-- The blanks before a line that is set further in. -/
  | indent
  /-- The place where a line is set further out. -/
  | dedent
  | other
  deriving DecidableEq, Repr

/-- A line, counted from one, and a column, counted from zero. -/
structure Place where
  line : Nat
  column : Nat
  deriving DecidableEq, Repr

/-- A piece of a text. -/
structure Piece where
  kind : PieceKind
  text : List Char
  start : Place
  stop : Place

/-! ## Pieces on a line -/

/-- A blank within a line. -/
def isLineBlank (c : Char) : Bool :=
  c == ' ' || c == '\t' || c == '\x0c'

/-- A character of a name. Only the first 256 code points are told apart. -/
def isNameChar (c : Char) : Bool :=
  let n := c.toNat
  c.isAlphanum || c == '_' || n == 0xaa || n == 0xb2 || n == 0xb3 || n == 0xb5 || n == 0xb9 ||
    n == 0xba || (0xbc ≤ n && n ≤ 0xbe) || (0xc0 ≤ n && n != 0xd7 && n != 0xf7)

/-- The length of the digits of a class at the start of a text, a bar allowed before each digit but
    the first. -/
def barredLength (isDigit : Char → Bool) : List Char → Nat
  | [] => 0
  | '_' :: d :: rest => if isDigit d then barredLength isDigit rest + 2 else 0
  | c :: rest => if isDigit c then barredLength isDigit rest + 1 else 0

/-- The length of the digits at the start of a text, the first of which has no bar before it. -/
def digitsLength (isDigit : Char → Bool) : List Char → Nat
  | [] => 0
  | c :: rest => if isDigit c then barredLength isDigit rest + 1 else 0

/-- A digit of a base. -/
def isDigitOf (base : Nat) (c : Char) : Bool :=
  match Integer.digitValue? c with
  | some d => c.toNat < 0x80 && d < base
  | none => false

/-- The base that the second character of a numeral marks. -/
def markBase? (c : Char) : Option Nat :=
  if c = 'x' || c = 'X' then some 16
  else if c = 'b' || c = 'B' then some 2
  else if c = 'o' || c = 'O' then some 8
  else none

/-- The length of an exponent at the start of a text. -/
def exponentLength : List Char → Nat
  | c :: rest =>
    if c = 'e' || c = 'E' then
      let sign :=
        match rest with
        | s :: _ => if s = '+' || s = '-' then 1 else 0
        | [] => 0
      let ds := digitsLength Char.isDigit (rest.drop sign)
      if ds = 0 then 0 else 1 + sign + ds
    else 0
  | [] => 0

/-- The length of a decimal integer: one that begins with a zero has only zeros. -/
def wholeLength (cs : List Char) : Nat :=
  if cs.head? = some '0' then digitsLength (· == '0') cs else digitsLength Char.isDigit cs

/-- The length of the number at the start of a text that begins with a digit, or with a point and a
    digit. -/
def numberLength (cs : List Char) : Nat :=
  let whole := digitsLength Char.isDigit cs
  let places :=
    match cs.drop whole with
    | '.' :: rest => 1 + digitsLength Char.isDigit rest
    | _ => 0
  let exponent := exponentLength (cs.drop (whole + places))
  let size := whole + places + exponent
  let imaginary := (cs.drop size).head?.map fun c => c == 'j' || c == 'J'
  if imaginary = some true then size + 1
  else if 0 < places + exponent then size
  else
    match cs with
    | '0' :: c :: rest =>
      match markBase? c with
      | some base =>
        let ds := barredLength (isDigitOf base) rest
        if ds = 0 then wholeLength cs else 2 + ds
      | none => wholeLength cs
    | _ => wholeLength cs

/-- The marks of more than one character, longer ones first. -/
def longMarks : List String :=
  ["**=", "//=", ">>=", "<<=", "...", "!=", "%=", "&=", "**", "*=", "+=", "-=", "->", "//", "/=", ":=",
    "<<", "<=", "==", ">=", ">>", "@=", "^=", "|="]

/-- The marks of one character. -/
def shortMarks : List Char :=
  "%&()*+,-./:;<=>@[]^\x7b|\x7d~".toList

/-- The length of the mark at the start of a text, if one is there. -/
def markLength? (cs : List Char) : Option Nat :=
  match longMarks.find? fun m => m.toList.isPrefixOf cs with
  | some m => some m.length
  | none =>
    match cs with
    | c :: _ => if shortMarks.contains c then some 1 else none
    | [] => none

/-- The letters that may stand before a quote, and the quote and what follows it. -/
def quoteBehind? (cs : List Char) : Option (Nat × Char × List Char) :=
  let letters := cs.takeWhile Char.isAlpha
  let known := ["", "b", "r", "u", "f", "br", "rb", "fr", "rf"]
  if !known.contains (String.ofList (letters.map Char.toLower)) then none
  else
    match cs.drop letters.length with
    | q :: rest => if q = '\x27' || q = '\x22' then some (letters.length, q, rest) else none
    | [] => none

/-- The length of a text up to its closing quotes, which are counted. No line end may be escaped. -/
def closeLength? (quote : Char) (threefold : Bool) : List Char → Option Nat
  | [] => none
  | '\x5c' :: c :: rest =>
    if c = '\n' then none else (closeLength? quote threefold rest).map (· + 2)
  | c :: rest =>
    if c = quote && (!threefold || rest.take 2 == [quote, quote]) then
      some (if threefold then 3 else 1)
    else (closeLength? quote threefold rest).map (· + 1)

/-- Where a text between single quotes leads on its line. -/
inductive Reach
  /-- It is closed, after so many characters. -/
  | closed (length : Nat)
  /-- It goes on, behind a backslash at the end of the line. -/
  | onward
  | broken

/-- Go one or two characters further. -/
def Reach.further (n : Nat) : Reach → Reach
  | closed k => closed (k + n)
  | r => r

/-- Where a text leads on its line. -/
def reach (quote : Char) : List Char → Reach
  | [] => .broken
  | '\x5c' :: '\r' :: '\n' :: _ => .onward
  | '\x5c' :: c :: rest => if c = '\n' then .onward else (reach quote rest).further 2
  | c :: rest =>
    if c = quote then .closed 1
    else if c = '\n' || c = '\x5c' then .broken
    else (reach quote rest).further 1

/-! ## Lines -/

/-- A text between quotes that goes on over the end of a line. -/
structure OpenText where
  start : Place
  quote : Char
  threefold : Bool
  written : List Char

/-- How far the pieces of a text are found. -/
structure Reading where
  /-- The open brackets less the closed ones. -/
  level : Int
  /-- A backslash stands at the end of the line before. -/
  continued : Bool
  /-- The columns at which lines begin, the innermost first. -/
  columns : List Nat
  pending : Option OpenText
  /-- Every line of a text that goes on must end with a backslash. This holds from a text between
      single quotes on, up to the next one that is closed. -/
  carries : Bool
  /-- The last line begins a statement and holds nothing but blanks. -/
  blankEnd : Bool
  /-- The pieces found, last first. -/
  done : List Piece

/-- Nothing is read. -/
def Reading.start : Reading := ⟨0, false, [0], none, false, false, []⟩

/-- One more piece. -/
def Reading.add (r : Reading) (p : Piece) : Reading :=
  { r with done := p :: r.done }

/-- How a mark changes the number of open brackets. -/
def levelChange (mark : List Char) : Int :=
  if mark = ['('] || mark = ['['] || mark = ['\x7b'] then 1
  else if mark = [')'] || mark = [']'] || mark = ['\x7d'] then -1
  else 0

/-- What stands at the start of a text that begins with no blank. -/
inductive Found
  | piece (kind : PieceKind) (length : Nat)
  /-- A text whose quotes do not close on the line; so many characters open it. -/
  | opened (quote : Char) (threefold : Bool)
  | continuation
  | nothing

/-- What stands at the start of a text that begins with no blank. -/
def find (cs : List Char) : Found :=
  match cs with
  | '\x5c' :: '\n' :: _ => .continuation
  | '\x5c' :: '\r' :: '\n' :: _ => .continuation
  | '\n' :: _ => .piece .lineEnd 1
  | '\r' :: '\n' :: _ => .piece .lineEnd 2
  | [] => .nothing
  | c :: rest =>
    let isNumber := c.isDigit || (c == '.' && (rest.head?.map Char.isDigit).getD false)
    let word : Found :=
      let length := (cs.takeWhile isNameChar).length
      if length = 0 then .nothing else .piece .name length
    if c = '#' then .piece .other (cs.takeWhile fun d => d != '\r' && d != '\n').length
    else
      match quoteBehind? cs with
      | some (letters, quote, behind) =>
        if behind.take 2 == [quote, quote] then
          match closeLength? quote true (behind.drop 2) with
          | some n => .piece .other (letters + 3 + n)
          | none => .opened quote true
        else
          match reach quote behind with
          | .closed n => .piece .other (letters + 1 + n)
          | .onward => .opened quote false
          | .broken => word
      | none =>
        if isNumber then .piece .number (numberLength cs)
        else
          match markLength? cs with
          | some n => .piece .other n
          | none => word

/-- Find the pieces on the rest of a line, from a column on; `fuel` exceeds its length. -/
def scan (line : Nat) : Nat → Nat → List Char → Reading → Reading
  | 0, _, _, r => r
  | fuel + 1, column, cs, r =>
    let blanks := (cs.takeWhile isLineBlank).length
    let rest := cs.drop blanks
    let start : Place := ⟨line, column + blanks⟩
    if rest.isEmpty then r
    else
      match find rest with
      | .continuation => { r with continued := true }
      | .opened quote threefold => { r with
          pending := some ⟨start, quote, threefold, rest⟩
          carries := r.carries || !threefold }
      | .nothing =>
        let piece : Piece := ⟨.other, cs.take 1, ⟨line, column⟩, ⟨line, column + 1⟩⟩
        scan line fuel (column + 1) (cs.drop 1) (r.add piece)
      | .piece kind length =>
        let text := rest.take length
        let stop := column + blanks + length
        let r := r.add ⟨kind, text, start, ⟨line, stop⟩⟩
        scan line fuel stop (rest.drop length) { r with level := r.level + levelChange text }

/-- The column at which a line begins, where tabs go to multiples of eight, and the number of
    characters before it. -/
def indentation (column count : Nat) : List Char → Nat × Nat
  | ' ' :: rest => indentation (column + 1) (count + 1) rest
  | '\t' :: rest => indentation ((column / 8 + 1) * 8) (count + 1) rest
  | '\x0c' :: rest => indentation 0 (count + 1) rest
  | _ => (column, count)

/-- The columns that are left when a line begins at a column. -/
def setOut (line column count : Nat) (columns : List Nat) : List Piece → List Nat →
    Except Failure (List Nat × List Piece)
  | done, [] => .ok ([], done)
  | done, top :: outer =>
    if column < top then
      if columns.contains column then
        setOut line column count columns (⟨.dedent, [], ⟨line, count⟩, ⟨line, count⟩⟩ :: done) outer
      else .error (.value (.array (.indentation line)))
    else .ok (top :: outer, done)

/-- Find the pieces of a line that begins a statement. -/
def readStatement (line : Nat) (cs : List Char) (r : Reading) : Except Failure Reading := do
  let (column, count) := indentation 0 0 cs
  let rest := cs.drop count
  let whole := cs.length
  match rest with
  | [] => .ok { r with blankEnd := true }
  | c :: _ =>
    if c = '#' || c = '\r' || c = '\n' then
      let comment :=
        if c = '#' then (Text.trim (fun d => d == '\r' || d == '\n') rest).length else 0
      let r :=
        if c = '#' then
          r.add ⟨.other, rest.take comment, ⟨line, count⟩, ⟨line, count + comment⟩⟩
        else r
      .ok (r.add ⟨.lineEnd, rest.drop comment, ⟨line, count + comment⟩, ⟨line, whole⟩⟩)
    else
      let r :=
        if r.columns.headD 0 < column then
          { r.add ⟨.indent, cs.take count, ⟨line, 0⟩, ⟨line, count⟩⟩ with columns := column :: r.columns }
        else r
      let (columns, done) ← setOut line column count r.columns r.done r.columns
      .ok (scan line (whole + 1) count rest { r with columns, done })

/-- Find the pieces of a line. -/
def readLine (line : Nat) (cs : List Char) (r : Reading) : Except Failure Reading :=
  match r.pending with
  | some p =>
    match closeLength? p.quote p.threefold cs with
    | some n =>
      let r := { r with pending := none, carries := false }
      .ok (scan line (cs.length + 1) n (cs.drop n)
        (r.add ⟨.other, p.written ++ cs.take n, p.start, ⟨line, n⟩⟩))
    | none =>
      let onward := ['\x5c', '\n'].isSuffixOf cs || ['\x5c', '\r', '\n'].isSuffixOf cs
      if !r.carries || onward then
        .ok { r with pending := some { p with written := p.written ++ cs } }
      else
        let r := { r with pending := none }
        .ok (r.add ⟨.other, p.written ++ cs, p.start, ⟨line, cs.length⟩⟩)
  | none =>
    if r.level = 0 ∧ r.continued = false then readStatement line cs r
    else .ok (scan line (cs.length + 1) 0 cs { r with continued := false })

/-- Find the pieces of lines. -/
def readLines (line : Nat) (r : Reading) : List (List Char) → Except Failure Reading
  | [] =>
    match r.pending with
    | some p => .error (.value (.array (.openText p.start.line p.start.column)))
    | none =>
      if r.level = 0 ∧ r.continued = false then .ok r
      else .error (.value (.array (.openBracket line)))
  | cs :: rest => do readLines (line + 1) (← readLine line cs r) rest

/-- The lines of a text, each with its end. -/
def linesOf (line : List Char) : List Char → List (List Char)
  | [] => if line.isEmpty then [] else [line.reverse]
  | c :: rest => if c = '\n' then (c :: line).reverse :: linesOf [] rest else linesOf (c :: line) rest

/-- The line end that stands behind a last line without one, unless the line is a comment. -/
def lastEnd (lines : List (List Char)) : List Piece :=
  match lines.getLast? with
  | none => []
  | some last =>
    let text := last.dropWhile Text.isBlank
    if last.getLast? = some '\n' || last.getLast? = some '\r' || text.head? = some '#' then []
    else [⟨.lineEnd, [], ⟨lines.length, last.length⟩, ⟨lines.length, last.length + 1⟩⟩]

/-- The pieces of a text in order. -/
def piecesOf (cs : List Char) : Except Failure (List Piece) := do
  let lines := linesOf [] cs
  let r ← readLines 1 .start lines
  return r.done.reverse ++ if r.blankEnd then [] else lastEnd lines

/-! ## Putting together -/

/-- Leave out the pieces `L` behind a number. -/
def withoutMarks (behindNumber : Bool) : List Piece → List Piece
  | [] => []
  | p :: rest =>
    if behindNumber && p.kind = .name && p.text = ['L'] then withoutMarks true rest
    else p :: withoutMarks (p.kind = .number) rest

/-- What is put together so far. -/
structure Joining where
  /-- The text, last character first. -/
  written : List Char
  /-- Where the next piece would stand without blanks before it. -/
  place : Place
  /-- The blanks before the lines that are set in, the innermost first. -/
  indents : List (List Char)
  /-- A line has ended, and no piece of the next one is there. -/
  atStart : Bool

/-- Put a piece behind a text at its own place, which must not lie before the end of the text. -/
def Joining.put (j : Joining) (p : Piece) : Except Failure Joining :=
  let lines := p.start.line - j.place.line
  let column := if lines = 0 then j.place.column else 0
  let breaks := (List.replicate lines ['\n', '\x5c']).flatten
  let blanks := List.replicate (p.start.column - column) ' '
  let written := p.text.reverse ++ blanks ++ breaks ++ j.written
  let place : Place := if p.kind = .lineEnd then ⟨p.stop.line + 1, 0⟩ else p.stop
  if p.start.line < j.place.line ∨ (lines = 0 ∧ p.start.column < j.place.column) then
    .error (.value (.array
      (.misplaced (p.start.line, p.start.column) (j.place.line, j.place.column))))
  else .ok { j with written, place }

/-- Begin a line that is set in with its blanks, unless the piece stands before their end. -/
def Joining.begin (j : Joining) (p : Piece) : Joining :=
  match j.indents with
  | indent :: _ =>
    if indent.length ≤ p.start.column then
      { j with
        written := indent.reverse ++ j.written
        place := { j.place with column := indent.length }
        atStart := false }
    else { j with atStart := false }
  | [] => j

/-- Put one more piece behind a text. -/
def Joining.add (j : Joining) (p : Piece) : Except Failure Joining :=
  match p.kind with
  | .indent => .ok { j with indents := p.text :: j.indents }
  | .dedent => .ok { j with indents := j.indents.drop 1, place := p.stop }
  | .lineEnd => (j.put p).map fun j => { j with atStart := true }
  | _ => (if j.atStart then j.begin p else j).put p

/-- The text of pieces, each at its own place. -/
def join (pieces : List Piece) : Except Failure (List Char) := do
  return (← pieces.foldlM Joining.add ⟨[], ⟨1, 0⟩, [], false⟩).written.reverse

/-- A text without the marks of long integers. -/
def removed (cs : List Char) : Except Failure (List Char) :=
  (piecesOf cs).bind fun pieces => join (withoutMarks false pieces)

end SeedStream.Literal.LongMark
