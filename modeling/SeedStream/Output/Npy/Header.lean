import SeedStream.Item.Description
import SeedStream.Literal.LongMark
import SeedStream.Literal.Order

/-!
# Headers of array files

The header of an array file is the text of a literal with three fields: the type of the items, their
order, and the lengths of the dimensions. The header of a row of words is written with blanks behind
it, so that the items begin at a multiple of 64 bytes.
-/

namespace SeedStream.Npy

/-! ## Writing -/

/-- The header of a row of words up to its only length. -/
def headerStart : List Char :=
  "\x7b'descr': '<u4', 'fortran_order': False, 'shape': (".toList

/-- The header of a row of words. -/
def headerText (count : Nat) : List Char :=
  headerStart ++ Numeral.decimal count ++ ",), \x7d".toList

/-- The places kept free behind the header so that a row may grow. -/
def growthRoom : Nat := 21

/-- The header with the blanks and the line end that bring the items to a multiple of 64. -/
def paddedHeader (count : Nat) : List Char :=
  let text := headerText count ++ List.replicate (growthRoom - (Numeral.decimal count).length) ' '
  text ++ List.replicate (64 - (10 + text.length + 1) % 64) ' ' ++ ['\n']

/-! ## Reading -/

/-- What a header says. -/
structure Header where
  items : ItemType
  /-- The first dimension moves fastest. -/
  firstFastest : Bool
  /-- The lengths of the dimensions, as they are written. -/
  shape : List Literal

/-- A fault of an array file as a failure. -/
def refuse (fault : ArrayFault) : Except Failure α :=
  .error (.value (.array fault))

/-- The names of the fields of a header. -/
def fieldNames : List String := ["descr", "fortran_order", "shape"]

/-- A header has the fields it must have and no others. -/
def hasFields (fs : List (Literal × Literal)) : Bool :=
  fs.length == fieldNames.length && fieldNames.all fun n => (Literal.field? n fs).isSome

/-- The literals of a row that holds nothing but integers and truth values. -/
def lengths? : Literal → Option (List Literal)
  | .row xs => if xs.all fun x => x.integer?.isSome then some xs else none
  | _ => none

/-- The type that a literal describes; one of the wrong kind is shown. -/
def itemsOf (descr : Literal) : Except Failure ItemType :=
  match ItemType.ofLiteral descr with
  | .error (.kind _) => do refuse (.badKind (← descr.display))
  | t => t

/-- The header that fields say. -/
def Header.ofFields (fs : List (Literal × Literal)) : Except Failure Header := do
  if !hasFields fs then
    let names ← Literal.sorted (fs.map (·.1))
    refuse (.badNames (← (Literal.list names).display))
  else
    let field (name : String) : Literal := (Literal.field? name fs).getD .null
    match lengths? (field "shape"), field "fortran_order" with
    | none, _ => refuse (.badShape (← (field "shape").display))
    | some shape, .bool firstFastest => return ⟨← itemsOf (field "descr"), firstFastest, shape⟩
    | _, order => refuse (.badOrder (← order.display))

/-- The literal of a header. The headers of older versions may have marks of long integers, which
    are left out when the header cannot be read with them. -/
def literalOf (older : Bool) (cs : List Char) : Except Failure Literal := do
  if cs.contains '\x00' then refuse .nullByte
  else
    match Literal.read? cs with
    | some x => x.settle
    | none =>
      let cs ← if older then Literal.LongMark.removed cs else .ok cs
      match Literal.read? cs with
      | some x => x.settle
      | none => refuse (.unreadable (quote cs))

/-- The header that a text says. -/
def Header.ofText (older : Bool) (cs : List Char) : Except Failure Header := do
  match ← literalOf older cs with
  | .fields fs => Header.ofFields fs
  | x => refuse (.notFields (← x.display))

end SeedStream.Npy
