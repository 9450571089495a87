import SeedStream.Argument

/-!
# Literals

The values that the header of an array file may write: those of a configuration, and besides them
rows in round brackets, sets and fields in braces, bytes, complex numbers and three dots. A literal is
shown as it would be written, and literals of different kinds may be equal as numbers are.
-/

namespace SeedStream

/-- A value that a header writes. -/
inductive Literal
  | null
  | bool (b : Bool)
  | int (i : Int)
  | real (x : Float)
  /-- A real part and an imaginary one. -/
  | complex (re im : Float)
  | text (t : Text)
  | bytes (bs : List UInt8)
  | dots
  | row (xs : List Literal)
  | list (xs : List Literal)
  | set (xs : List Literal)
  | fields (fs : List (Literal × Literal))

namespace Literal

/-- What the literal is. -/
def kind : Literal → Kind
  | null => .null
  | bool _ => .bool
  | int _ => .int
  | real _ => .real
  | complex .. => .complex
  | text _ => .text
  | bytes _ => .bytes
  | dots => .rest
  | row _ => .row
  | list _ => .list
  | set _ => .set
  | fields _ => .object

/-- The integer that an integer or a truth value is. -/
def integer? : Literal → Option Int
  | bool b => some (if b then 1 else 0)
  | int i => some i
  | _ => none

/-! ## Shown text -/

/-- A part of a complex number: a whole one has no point. -/
def partText (x : Float) : List Char :=
  let cs := Double.text x
  if ['.', '0'].isSuffixOf cs then cs.dropLast.dropLast else cs

/-- The text that shows a complex number. -/
def complexText (re im : Float) : List Char :=
  let imaginary := partText im ++ ['j']
  if re.toBits = 0 then imaginary
  else
    let sign := if imaginary.head? = some '-' then [] else ['+']
    '(' :: (partText re ++ sign ++ imaginary ++ [')'])

/-- Texts with a comma and a space between them. -/
def separated (texts : List (List Char)) : List Char :=
  [',', ' '].intercalate texts

mutual

/-- The text that shows a literal. -/
def shown : Literal → List Char
  | null => Value.shown .null
  | bool b => Value.shown (.bool b)
  | int i => Numeral.signed i
  | real x => Double.text x
  | complex re im => complexText re im
  | text t => Text.quoted t
  | bytes bs => Text.quotedBytes bs
  | dots => "Ellipsis".toList
  | row [x] => '(' :: (shown x ++ [',', ')'])
  | row xs => '(' :: (separated (shownItems xs) ++ [')'])
  | list xs => '[' :: (separated (shownItems xs) ++ [']'])
  | set [] => "set()".toList
  | set xs => '\x7b' :: (separated (shownItems xs) ++ ['\x7d'])
  | fields fs => '\x7b' :: (separated (shownFields fs) ++ ['\x7d'])

/-- The texts that show items. -/
def shownItems : List Literal → List (List Char)
  | [] => []
  | x :: rest => shown x :: shownItems rest

/-- The texts that show fields. -/
def shownFields : List (Literal × Literal) → List (List Char)
  | [] => []
  | (k, x) :: rest => (shown k ++ ':' :: ' ' :: shown x) :: shownFields rest

end

mutual

/-- Every integer in the literal is short enough to be written. -/
def isWritable : Literal → Bool
  | int i => Integer.isWritable i
  | row xs => areWritable xs
  | list xs => areWritable xs
  | set xs => areWritable xs
  | fields fs => fieldsAreWritable fs
  | _ => true

/-- Every integer in the items is short enough to be written. -/
def areWritable : List Literal → Bool
  | [] => true
  | x :: rest => isWritable x && areWritable rest

/-- Every integer in the fields is short enough to be written. -/
def fieldsAreWritable : List (Literal × Literal) → Bool
  | [] => true
  | (k, x) :: rest => isWritable k && isWritable x && fieldsAreWritable rest

end

/-- The shown text of a literal that can be written. -/
def display (x : Literal) : Except Failure String :=
  if x.isWritable then .ok (String.ofList x.shown) else .error (.value .longNumeral)

/-! ## Equal literals -/

/-- A number as a real part and an imaginary one. -/
def number? : Literal → Option (Value × Float)
  | bool b => some (.bool b, 0.0)
  | int i => some (.int i, 0.0)
  | real x => some (.real x, 0.0)
  | complex re im => some (.real re, im)
  | _ => none

/-- How two real numbers compare. -/
def compareReal? (a b : Value) : Option Ordering :=
  match a, b with
  | .real x, .real y => if x < y then some .lt else if y < x then some .gt else if x == y then some .eq else none
  | .real _, _ => b.integer?.bind a.compareInt?
  | _, .real _ => (a.integer?.bind b.compareInt?).map Ordering.swap
  | _, _ => b.integer?.bind a.compareInt?

/-- Two literals that are no rows are equal. -/
def sameLeaf (a b : Literal) : Bool :=
  match a, b with
  | null, null => true
  | dots, dots => true
  | text s, text t => s == t
  | bytes xs, bytes ys => xs == ys
  | _, _ =>
    match a.number?, b.number? with
    | some (x, i), some (y, j) => compareReal? x y == some .eq && i == j
    | _, _ => false

mutual

/-- Two literals are equal, as keys and members are. -/
def same : Literal → Literal → Bool
  | row xs, row ys => sameRow xs ys
  | a, b => sameLeaf a b

/-- Two rows have equal items. -/
def sameRow : List Literal → List Literal → Bool
  | [], [] => true
  | x :: xs, y :: ys => same x y && sameRow xs ys
  | _, _ => false

end

/-! ## Fields -/

/-- The literal under a name. -/
def field? (name : Text) (fs : List (Literal × Literal)) : Option Literal :=
  (fs.find? fun f => same f.1 (text name)).map (·.2)

/-- The integers of a row that holds nothing else. -/
def integers? : Literal → Option (List Int)
  | row xs => xs.mapM integer?
  | _ => none

end Literal

end SeedStream
