import SeedStream.Literal.Basic
import SeedStream.Shape

/-!
# Types of items

What the items of an array are: numbers, moments and spans of time, texts, objects, arrays of other
items, and records of named fields. A type has a size in bytes, a name, and a text that shows it.
-/

namespace SeedStream

/-- The kinds of numbers. -/
inductive NumberKind
  | natural
  | integer
  | real
  /-- A real number and an imaginary one, which does not count. -/
  | complex
  | bool
  deriving DecidableEq, Repr

/-- The kinds of rows of characters and bytes. -/
inductive TextKind
  | bytes
  | letters
  /-- Bytes that mean nothing. -/
  | blank
  deriving DecidableEq, Repr

/-- A number: its kind, its number of bytes, and whether the most significant byte comes first. -/
structure NumberType where
  kind : NumberKind
  size : Nat
  bigFirst : Bool
  deriving DecidableEq, Repr

/-- How a field is known, and where in its record it begins. -/
structure FieldHead where
  name : Text
  title : Option Literal
  offset : Nat

/-- What an item is. -/
inductive ItemType
  | number (t : NumberType)
  /-- A moment or a span of time, counted in a unit from a machine word. -/
  | time (isSpan : Bool) (unit : String) (bigFirst : Bool)
  | text (kind : TextKind) (length : Nat) (bigFirst : Bool)
  | object
  | array (base : ItemType) (lengths : List Nat)
  | record (fields : List (FieldHead × ItemType)) (size : Nat)

namespace ItemType

/-- The bytes of a letter in a text of letters. -/
def letterSize : Nat := 4

/-- The number of bytes of an item. -/
def size : ItemType → Nat
  | number t => t.size
  | time .. => 8
  | text kind n _ => if kind = .letters then letterSize * n else n
  | object => 8
  | array base lengths => base.size * Shape.size lengths
  | record _ size => size

mutual

/-- There are objects in an item. -/
def hasObjects : ItemType → Bool
  | object => true
  | array base _ => hasObjects base
  | record fs _ => fieldsHaveObjects fs
  | _ => false

/-- There are objects in a field. -/
def fieldsHaveObjects : List (FieldHead × ItemType) → Bool
  | [] => false
  | (_, t) :: rest => hasObjects t || fieldsHaveObjects rest

end

/-- An array of arrays taken as one array: what its items are, and all its lengths. -/
def flattened : ItemType → ItemType × List Nat
  | array base lengths =>
    let (inner, more) := base.flattened
    (inner, lengths ++ more)
  | t => (t, [])

/-! ## Shown text -/

/-- The sign of the order of bytes. -/
def orderSign (bigFirst : Bool) : String :=
  if bigFirst then ">" else "<"

/-- The letter of a kind of numbers. -/
def kindLetter : NumberKind → String
  | .natural => "u"
  | .integer => "i"
  | .real => "f"
  | .complex => "c"
  | .bool => "b"

/-- The name of a kind of numbers. -/
def kindName : NumberKind → String
  | .natural => "uint"
  | .integer => "int"
  | .real => "float"
  | .complex => "complex"
  | .bool => "bool"

/-- The letters of a kind of texts. -/
def textLetter : TextKind → String
  | .bytes => "S"
  | .letters => "U"
  | .blank => "V"

/-- The code of a type that has neither parts nor fields. -/
def code : ItemType → String
  | number t =>
    if t.kind = .bool then "?"
    else (if t.size = 1 then "" else orderSign t.bigFirst) ++ kindLetter t.kind ++ Numeral.ofNat t.size
  | time isSpan unit bigFirst => orderSign bigFirst ++ (if isSpan then "m8" else "M8") ++ unit
  | text kind n bigFirst =>
    (if kind = .letters then orderSign bigFirst else "") ++ textLetter kind ++
      (if n = 0 then "" else Numeral.ofNat n)
  | object => "O"
  | _ => ""

/-- The types of fields lie one behind another, from a place up to the end. -/
def isPacked (size : Nat) (place : Nat) : List (FieldHead × ItemType) → Bool
  | [] => place == size
  | (head, t) :: rest => head.offset == place && isPacked size (place + t.size) rest

/-- Fields as they are shown when they lie one behind another. -/
def listedFields (fields : List (FieldHead × List Char)) : List Char :=
  let one (f : FieldHead × List Char) : List Char :=
    let name := Text.quoted f.1.name
    let names :=
      match f.1.title with
      | none => name
      | some title => '(' :: (title.shown ++ [',', ' '] ++ name ++ [')'])
    '(' :: (names ++ [',', ' '] ++ f.2 ++ [')'])
  '[' :: (Literal.separated (fields.map one) ++ [']'])

/-- Fields as they are shown when there is room between them. -/
def spreadFields (size : Nat) (fields : List (FieldHead × List Char × List Char)) : List Char :=
  let part (name : String) (texts : List (List Char)) : List Char :=
    ("'" ++ name ++ "': [").toList ++ Literal.separated texts ++ [']']
  let titles :=
    if fields.any fun f => f.1.title.isSome then
      [part "titles" (fields.map fun f => (f.1.title.map Literal.shown).getD (Literal.shown .null))]
    else []
  let parts :=
    [part "names" (fields.map fun f => Text.quoted f.1.name),
      part "formats" (fields.map fun f => f.2.2),
      part "offsets" (fields.map fun f => Numeral.decimal f.1.offset)] ++ titles ++
      ["'itemsize': ".toList ++ Numeral.decimal size]
  '\x7b' :: (Literal.separated parts ++ ['\x7d'])

/-- The lengths of an item that is an array, as they are shown. -/
def lengthsText (lengths : List Nat) : List Char :=
  (Shape.text (lengths.map Int.ofNat)).toList

mutual

/-- The text that shows a type within another one. -/
def short : ItemType → List Char
  | array base lengths => '(' :: (short base ++ [',', ' '] ++ lengthsText lengths ++ [')'])
  | record fields size =>
    let texts := shortFields fields
    if isPacked size 0 fields then listedFields (texts.map fun f => (f.1, f.2.1))
    else spreadFields size texts
  | t => ("'" ++ code t ++ "'").toList

/-- The heads of fields with the texts of their types: one in which the parts of an array stand on
    their own, and one in which they stand between brackets. -/
def shortFields : List (FieldHead × ItemType) → List (FieldHead × List Char × List Char)
  | [] => []
  | (head, t) :: rest =>
    let whole := short t
    let parts :=
      match t with
      | array .. => whole.drop 1 |>.dropLast
      | _ => whole
    (head, parts, whole) :: shortFields rest

end

/-- The text that shows the type of an array. -/
def shown (t : ItemType) : List Char :=
  "dtype(".toList ++ short t ++ [')']

/-- The name of a type, as messages about the memory of an array write it. -/
def name (t : ItemType) : List Char :=
  match t with
  | number n =>
    if n.bigFirst && 1 < n.size then (code t).toList
    else if n.kind = .bool then (kindName n.kind).toList
    else (kindName n.kind ++ Numeral.ofNat (8 * n.size)).toList
  | time isSpan unit bigFirst =>
    if bigFirst then (code t).toList
    else ((if isSpan then "timedelta64" else "datetime64") ++ unit).toList
  | text kind n bigFirst =>
    let sign := if kind = .letters then orderSign bigFirst else "|"
    (sign ++ textLetter kind ++ Numeral.ofNat n).toList
  | object => "object".toList
  | t => short t

end ItemType

end SeedStream
