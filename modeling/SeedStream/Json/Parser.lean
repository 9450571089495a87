import SeedStream.Json.Scanner

/-!
# Reading JSON

A JSON text as a value. The names `NaN`, `Infinity` and `-Infinity` are numbers too, and of two
fields with one name the later counts. Lists and objects may lie within one another up to a limit.
A refused text is refused at its first fault.
-/

namespace SeedStream.Json

/-- The words that stand for a value, with the value. -/
def words : List (List Char × Value) :=
  [("null".toList, .null), ("true".toList, .bool true), ("false".toList, .bool false),
    ("NaN".toList, .real (Float.ofBits 0x7ff8000000000000)),
    ("Infinity".toList, .real (Float.ofBits 0x7ff0000000000000)),
    ("-Infinity".toList, .real (Float.ofBits 0xfff0000000000000))]

/-- A value that is no list, object or string. -/
def atom (p : Place) : Except Refusal (Value × Place) :=
  match words.find? fun w => w.1.isPrefixOf p.rest with
  | some w => .ok (w.2, p.skip w.1.length)
  | none => number p

/-- The most lists and objects that may lie within one another. -/
def maxLevels : Nat := 985

/-- Go one level further in. -/
def descend (ofObject : Bool) (levels : Nat) : Except Refusal Nat :=
  if levels = 0 then .error (.depth ofObject) else .ok (levels - 1)

mutual

/-- The value at a place, with so many levels within it at most; `fuel` bounds the steps and exceeds
    twice the length of the text. -/
def value (levels : Nat) : Nat → Place → Except Refusal (Value × Place)
  | 0, p => .error (.fault .value p.position)
  | fuel + 1, p =>
    match p.rest with
    | [] => .error (.fault .value p.position)
    | c :: _ =>
      if c = '\x22' then (string (p.skip 1)).map fun r => (.text r.1, r.2)
      else if c = '[' then do
        let levels ← descend false levels
        let p := (p.skip 1).skipBlanks
        if p.rest.head? = some ']' then .ok (.list [], p.skip 1) else items levels fuel [] p
      else if c = '\x7b' then do
        let levels ← descend true levels
        let p := (p.skip 1).skipBlanks
        if p.rest.head? = some '\x7d' then .ok (.object [], p.skip 1) else fields levels fuel [] p
      else atom p

/-- The items of a list from one of them on; `done` holds the ones before, last first. -/
def items (levels : Nat) : Nat → List Value → Place → Except Refusal (Value × Place)
  | 0, _, p => .error (.fault .value p.position)
  | fuel + 1, done, p =>
    match value levels fuel p with
    | .error e => .error e
    | .ok (v, p) =>
      let p := p.skipBlanks
      match p.rest with
      | ']' :: _ => .ok (.list (v :: done).reverse, p.skip 1)
      | ',' :: _ => items levels fuel (v :: done) (p.skip 1).skipBlanks
      | _ => .error (.fault .comma p.position)

/-- The fields of an object from one of them on; `done` holds the ones before, last first. -/
def fields (levels : Nat) : Nat → List (Text × Value) → Place → Except Refusal (Value × Place)
  | 0, _, p => .error (.fault .value p.position)
  | fuel + 1, done, p =>
    if p.rest.head? = some '\x22' then
      match string (p.skip 1) with
      | .error e => .error e
      | .ok (name, p) =>
        let p := p.skipBlanks
        if p.rest.head? = some ':' then
          match value levels fuel (p.skip 1).skipBlanks with
          | .error e => .error e
          | .ok (v, p) =>
            let p := p.skipBlanks
            match p.rest with
            | '\x7d' :: _ => .ok (Value.ofFields ((name, v) :: done).reverse, p.skip 1)
            | ',' :: _ => fields levels fuel ((name, v) :: done) (p.skip 1).skipBlanks
            | _ => .error (.fault .comma p.position)
        else .error (.fault .colon p.position)
    else .error (.fault .name p.position)

end

/-- A text that holds one value and blanks. -/
def document (cs : List Char) : Except Refusal Value :=
  if cs.head? = some (Char.ofNat 0xfeff) then .error (.fault .byteOrderMark 0)
  else
    match value maxLevels (2 * cs.length + 2) (Place.mk 0 cs).skipBlanks with
    | .error e => .error e
    | .ok (v, p) =>
      let p := p.skipBlanks
      if p.rest.isEmpty then .ok v else .error (.fault .extra p.position)

/-- The failure for a refusal: its position as a line and a column, both counted from one. -/
def failureOf (cs : List Char) : Refusal → Failure
  | .longInteger n => .value (.longInteger n)
  | .depth ofObject => .depth ofObject
  | .fault fault position =>
    let before := cs.take position
    let column := (before.reverse.takeWhile (· != '\n')).length
    .json fault (before.count '\n' + 1) (column + 1) position

/-- The value that a JSON text holds. -/
def parse (cs : List Char) : Except Failure Value :=
  (document cs).mapError (failureOf cs)

end SeedStream.Json
