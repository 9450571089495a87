import SeedStream.Item.Code
import SeedStream.Item.Lengths

/-!
# Descriptions of items

How a text or a literal describes a type. A text is a code, or several codes set apart by commas,
which make a record; a number or a row of lengths before a code makes an array of it. A literal is
such a text, a pair of a type and its lengths, or a list of fields with their names. A field without
a name whose bytes mean nothing only keeps room.
-/

namespace SeedStream.ItemType

/-- A fault of a description as a failure. -/
def refuse (fault : ArrayFault) : Except Failure α :=
  .error (.value (.array fault))

/-! ## Arrays -/

/-- The lengths that an item may have. -/
def checkedLengths (t : ItemType) (lengths : List Int) : Except Failure (List Nat) :=
  let most : Int := maxSize
  let sizes := lengths.map Int.toNat
  if lengths.any (· < 0) then refuse (.badLengths ": dimension smaller than zero.")
  else if lengths.any (most < ·) then refuse (.badLengths ": dimension does not fit into a C int.")
  else if maxSize < Shape.size sizes ∨ maxSize < t.size * Shape.size sizes then
    refuse (.badLengths ": dtype size in bytes must fit into a C int.")
  else .ok sizes

/-- An array of items with lengths. -/
def ofLengths (t : ItemType) (lengths : List Int) : Except Failure ItemType := do
  if lengths.all Shape.isLength ∧ lengths.length ≤ maxDimensions then
    let sizes ← checkedLengths t lengths
    if sizes.isEmpty then return t else return array t sizes
  else refuse (.badLengths ".")

/-- A text of no size is given one. -/
def withSize (kind : TextKind) (bigFirst : Bool) (v : Literal) : Except Failure ItemType :=
  match v.integer? with
  | some n => if 0 ≤ n ∧ n ≤ maxSize then .ok (text kind n.toNat bigFirst) else refuse .badSize
  | none => refuse .badSize

/-- The lengths that a literal lists, if it lists lengths. -/
def lengths? : Literal → Option (List Int)
  | .int i => some [i]
  | .row xs => wholeItems? xs
  | .list xs => wholeItems? xs
  | _ => none
where
  wholeItems? (xs : List Literal) : Option (List Int) :=
    xs.mapM fun x =>
      match x with
      | .int i => some i
      | _ => none

/-- A type that stands for another one of the same size. -/
def standingFor (t other : ItemType) : Except Failure ItemType :=
  match t with
  | text kind 0 bigFirst =>
    .ok (text kind (if kind = .letters then other.size / letterSize else other.size) bigFirst)
  | _ => if t.size = other.size then .ok t else refuse .sizeMismatch

/-- A type paired with a literal: its lengths, its size or another type of its size. The number one
    leaves it alone, as no lengths do. -/
def paired (ofText : Text → Except Failure ItemType) (t : ItemType) (v : Literal) :
    Except Failure ItemType :=
  let plain : Except Failure ItemType :=
    match t with
    | text kind 0 bigFirst => withSize kind bigFirst v
    | _ =>
      match v, lengths? v with
      | .int 1, _ => .ok t
      | _, some lengths => ofLengths t lengths
      | _, none => refuse (.badLengths ".")
  match v with
  | .null => standingFor t (plainNumber .real 8)
  | .text other =>
    match ofText other with
    | .ok other => standingFor t other
    | .error _ => plain
  | _ => plain

/-! ## Records -/

/-- How a field is known: its name, and its title if it has one. -/
abbrev Heading := Literal × Option Literal

/-- How a field is known by what stands in the place of its name; nothing if it only keeps room. -/
def headingOf (name : Literal) (t : ItemType) : Except Failure (Option Heading) :=
  let keepsRoom : Bool :=
    match t with
    | text .blank _ _ => true
    | array .. => true
    | _ => false
  match name with
  | .row [title, name] =>
    .ok (some (name, match title with | .null => none | _ => some title))
  | .row parts =>
    .error (.value (if parts.length < 2 then .fewParts 2 parts.length else .manyParts 2))
  | .text [] => .ok (if keepsRoom then none else some (name, none))
  | _ => .ok (some (name, none))

/-- A field and the names and titles of those before it. -/
def checkHeading (taken : List Text) (h : Heading) : Except Failure (Text × List Text) :=
  match h.1 with
  | .text name =>
    if taken.contains name then refuse .repeatedName
    else
      match h.2 with
      | some (.text title) =>
        if title = name ∨ taken.contains title then refuse .repeatedTitle
        else .ok (name, title :: name :: taken)
      | some title => do
        title.checkKey
        return (name, name :: taken)
      | none => .ok (name, name :: taken)
  | _ => .error (.kind .fieldName)

/-- The fields from a place on, and the place behind them. -/
def placedFields (taken : List Text) (offset : Nat) :
    List (Option Heading × ItemType) → Except Failure (List (FieldHead × ItemType) × Nat)
  | [] => .ok ([], offset)
  | (none, t) :: rest => placedFields taken (offset + t.size) rest
  | (some h, t) :: rest => do
    let (name, taken) ← checkHeading taken h
    let (fields, size) ← placedFields taken (offset + t.size) rest
    return ((⟨name, h.2, offset⟩, t) :: fields, size)

/-- A record of fields one behind another. -/
def ofFields (parts : List (Option Heading × ItemType)) : Except Failure ItemType := do
  let (fields, size) ← placedFields [] 0 parts
  return record fields size

/-- A record whose fields are numbered from zero. -/
def numbered (ts : List ItemType) : Except Failure ItemType :=
  ofFields (ts.zipIdx.map fun (t, i) => (some (.text ("f" ++ Numeral.ofNat i : String), none), t))

/-! ## Texts -/

/-- A comma stands outside of square brackets, `levels` of which are open. -/
def hasOuterComma (levels : Int) : List Char → Bool
  | [] => false
  | c :: rest =>
    if c = ',' && levels == 0 then true
    else hasOuterComma (if c = '[' then levels + 1 else if c = ']' then levels - 1 else levels) rest

/-- A text begins with a number or with empty brackets. -/
def beginsRepeated : List Char → Bool
  | '(' :: ')' :: _ => true
  | c :: _ => c.isDigit
  | [] => false

/-- A text lists several codes, or has a number or empty brackets before a code. -/
def listsCodes (cs : List Char) : Bool :=
  let behindSign :=
    match cs with
    | c :: rest => isOrderSign c && beginsRepeated rest && !(rest == ['(', ')'])
    | [] => false
  beginsRepeated cs || behindSign || hasOuterComma 0 (cs.drop 1)

/-- A code in a list of codes: its sign of order, the lengths before it and itself. -/
structure ListedCode where
  firstOrder : List Char
  lengths : List Char
  secondOrder : List Char
  code : List Char

/-- At most one character of a class at the start of a text, and the rest. -/
def upToOne (p : Char → Bool) (cs : List Char) : List Char × List Char :=
  match cs with
  | c :: rest => if p c then ([c], rest) else ([], cs)
  | [] => ([], [])

/-- The characters of a class at the start of a text, and the rest. -/
def leading (p : Char → Bool) (cs : List Char) : List Char × List Char :=
  (cs.takeWhile p, cs.dropWhile p)

/-- The part of a code in square brackets, if it is closed and holds nothing else than letters,
    digits, commas and points. -/
def bracketPart (cs : List Char) : List Char × List Char :=
  match cs with
  | '[' :: rest =>
    let (inner, behind) := leading (fun c => c.isAlphanum || c == ',' || c == '.') rest
    match behind with
    | ']' :: behind => ('[' :: (inner ++ [']']), behind)
    | _ => ([], cs)
  | _ => ([], cs)

/-- The code at the start of a list of codes, and what follows it. -/
def listedCode (cs : List Char) : ListedCode × List Char :=
  let (firstOrder, cs) := upToOne isOrderSign cs
  let (blanks, cs) := leading (· == ' ') cs
  let (opening, cs) := upToOne (· == '(') cs
  let (inner, cs) := leading (fun c => c == ' ' || c == ',' || c.isDigit) cs
  let (closing, cs) := upToOne (· == ')') cs
  let (moreBlanks, cs) := leading (· == ' ') cs
  let (secondOrder, cs) := upToOne isOrderSign cs
  let (letters, cs) := leading (fun c => c.isAlphanum || c == '.' || c == '?') cs
  let (bracketed, cs) := bracketPart cs
  (⟨firstOrder, blanks ++ opening ++ inner ++ closing ++ moreBlanks, secondOrder,
    letters ++ bracketed⟩, cs)

/-- The usual order of bytes, the least significant first, as a sign. -/
def usualOrder (order : List Char) : List Char :=
  if order = ['='] then ['<'] else order

/-- The sign of order of a code; two signs must say the same. -/
def ListedCode.order (c : ListedCode) : Except Failure (List Char) :=
  let chosen : Except Failure (List Char) :=
    if c.secondOrder.isEmpty then .ok c.firstOrder
    else if c.firstOrder.isEmpty then .ok c.secondOrder
    else
      let first := usualOrder c.firstOrder
      let second := usualOrder c.secondOrder
      if first = second then .ok first
      else refuse (.byteOrders (String.ofList first) (String.ofList second))
  chosen.map fun order => if order = ['>'] then order else []

/-- The rest of a list of codes behind a code: nothing if it ends there. -/
def behindComma? (cs : List Char) : Option (Option (List Char)) :=
  let rest := cs.dropWhile Text.isBlank
  match rest with
  | [] => some none
  | ',' :: more => some (some (more.dropWhile Text.isBlank))
  | _ => none

/-- The lengths before a code, if there are any. -/
def ListedCode.readLengths (c : ListedCode) : Except Failure (Option Literal) :=
  if c.lengths.isEmpty then .ok none
  else
    match ItemType.readLengths c.lengths with
    | .ok v => .ok (some v)
    | .error fault => refuse (.formatLengths fault)

/-- The codes that a text lists, from a number on, with the lengths before each, and whether commas
    stand among them; `fuel` exceeds the length of what is left of the text. -/
def listedCodes (whole : List Char) :
    Nat → Nat → List Char → Except Failure (List (List Char × Option Literal) × Bool)
  | 0, _, _ => .ok ([], false)
  | fuel + 1, index, cs =>
    if cs.isEmpty then .ok ([], false)
    else
      let (c, rest) := listedCode cs
      match behindComma? rest with
      | none => refuse (.badFormat index whole)
      | some more => do
        let order ← c.order
        let item := (order ++ c.code, ← c.readLengths)
        match more with
        | none => return ([item], false)
        | some rest =>
          let (items, _) ← listedCodes whole fuel (index + 1) rest
          return (item :: items, true)

/-- The type that characters describe; `fuel` exceeds their number. -/
def ofChars : Nat → List Char → Except Failure ItemType
  | 0, cs => .error (.kind (.itemText cs))
  | fuel + 1, cs =>
    if !listsCodes cs then (ofCode? cs).getD (.error (.kind (.itemText cs)))
    else do
      let (items, isList) ← listedCodes cs (cs.length + 1) 1 cs
      let ts ← items.mapM fun (code, lengths) => do
        let t ← ofChars fuel code
        match lengths with
        | some v => paired (fun other => ofChars fuel other.chars) t v
        | none => return t
      match ts, isList with
      | [t], false => return t
      | _, _ => numbered ts

/-- The type that a text describes. -/
def ofText (t : Text) : Except Failure ItemType :=
  match Text.bytes t with
  | .error e => .error (.value (.letters e))
  | .ok _ => ofChars (t.length + 1) t.chars

/-! ## Literals -/

/-- A row has another number of parts than two or three. -/
def refuseParts (count : Nat) : Except Failure α :=
  .error (.value (if count < 3 then .fewParts 3 count else .manyParts 3))

/-- A field whose parts are the letters of a text. -/
def fieldOfText (t : Text) : Except Failure (Option Heading × ItemType) :=
  match t with
  | [name, code] => do
    let t ← ofText [code]
    return (← headingOf (.text [name]) t, t)
  | [name, code, lengths] => do
    let t ← paired ofText (← ofText [code]) (.text [lengths])
    return (← headingOf (.text [name]) t, t)
  | _ => refuseParts t.length

mutual

/-- The type that a literal describes. -/
def ofLiteral : Literal → Except Failure ItemType
  | .text t => ofText t
  | .row [] => refuse .noPart
  | .row [x] => do
    let _ ← ofLiteral x
    refuse .noPart
  | .row (x :: v :: _) => do paired ofText (← ofLiteral x) v
  | .list xs => do ofFields (← fieldsOf xs)
  | .set xs => do ofFields (← fieldsOf xs)
  | .fields fs => do ofFields (← fieldsOfKeys fs)
  | .bytes bs => if bs.isEmpty then ofFields [] else .error (.kind (.length .int))
  | x => .error (.kind (.items x.kind))

/-- The fields that literals describe. -/
def fieldsOf : List Literal → Except Failure (List (Option Heading × ItemType))
  | [] => .ok []
  | x :: rest => do
    let f ← fieldOf x
    return f :: (← fieldsOf rest)

/-- The fields that the keys of fields describe. -/
def fieldsOfKeys : List (Literal × Literal) → Except Failure (List (Option Heading × ItemType))
  | [] => .ok []
  | (k, _) :: rest => do
    let f ← fieldOf k
    return f :: (← fieldsOfKeys rest)

/-- The field that a literal describes. -/
def fieldOf : Literal → Except Failure (Option Heading × ItemType)
  | .row parts => fieldOfParts parts
  | .list parts => fieldOfParts parts
  | .set parts => fieldOfParts parts
  | .text t => fieldOfText t
  | .fields fs => fieldOfKeys fs
  | .bytes bs =>
    if bs.length = 2 ∨ bs.length = 3 then .error (.kind (.items .int)) else refuseParts bs.length
  | x => .error (.kind (.length x.kind))

/-- The field of a name, a type and perhaps lengths. -/
def fieldOfParts : List Literal → Except Failure (Option Heading × ItemType)
  | [name, x] => do
    let t ← ofLiteral x
    return (← headingOf name t, t)
  | [name, x, v] => do
    let t ← paired ofText (← ofLiteral x) v
    return (← headingOf name t, t)
  | parts => refuseParts parts.length

/-- The field whose parts are the keys of fields. -/
def fieldOfKeys : List (Literal × Literal) → Except Failure (Option Heading × ItemType)
  | [(name, _), (x, _)] => do
    let t ← ofLiteral x
    return (← headingOf name t, t)
  | [(name, _), (x, _), (v, _)] => do
    let t ← paired ofText (← ofLiteral x) v
    return (← headingOf name t, t)
  | parts => refuseParts parts.length

end

end SeedStream.ItemType
