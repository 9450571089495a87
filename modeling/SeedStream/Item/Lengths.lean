import SeedStream.Literal.Reader

/-!
# Lengths before a code

The lengths that may stand before a code in a list of codes: a number, or numbers with commas, in
brackets or not. They are read as a literal. Where that fails, a number with zeros before it or a
bracket closed too much is at fault wherever it stands, and else the first place that is wrong.
-/

namespace SeedStream.ItemType

/-- The pieces of lengths: rows of digits, commas and brackets. Blanks keep rows of digits apart and
    are left as empty pieces. -/
def lengthPieces : List Char → List (List Char)
  | [] => []
  | c :: rest =>
    let pieces := lengthPieces rest
    if c = ' ' then [] :: pieces
    else if c.isDigit then
      match pieces with
      | (d :: ds) :: more => if d.isDigit then (c :: d :: ds) :: more else [c] :: pieces
      | _ => [c] :: pieces
    else [c] :: pieces

/-- A fault of a single piece; `inBracket` says that a bracket is open. -/
def pieceFault? (inBracket : Bool) : List (List Char) → Option LengthsFault
  | [] => none
  | ['('] :: rest => pieceFault? true rest
  | [')'] :: rest => if inBracket then pieceFault? false rest else some .unopened
  | piece :: rest =>
    if piece.head? = some '0' && piece.any (· != '0') then some .leadingZero
    else pieceFault? inBracket rest

/-- The fault of the pieces in a bracket; `behindNumber` says that the one before is a number. -/
def bracketFault (behindNumber : Bool) : List (List Char) → LengthsFault
  | [] => .unclosed
  | [piece] => if piece = [','] && !behindNumber then .misplaced else .unclosed
  | piece :: rest =>
    if piece = [','] then if behindNumber then bracketFault false rest else .misplaced
    else if behindNumber then .noComma
    else bracketFault true rest

/-- The fault of lengths that are no literal. -/
def lengthsFault (cs : List Char) : LengthsFault :=
  match (lengthPieces cs).filter (· ≠ []) with
  | [] => .blank
  | pieces =>
    match pieceFault? false pieces, pieces with
    | some fault, _ => fault
    | none, ['('] :: rest => bracketFault false rest
    | none, _ => .misplaced

/-- The literal that lengths write. -/
def readLengths (cs : List Char) : Except LengthsFault Literal :=
  match Literal.read? cs with
  | some v => .ok v
  | none => .error (lengthsFault cs)

end SeedStream.ItemType
