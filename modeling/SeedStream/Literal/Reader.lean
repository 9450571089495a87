import SeedStream.Literal.Settled
import SeedStream.Literal.Token

/-!
# Reading literals

The literal that a text writes. Brackets around a single literal without a comma only enclose it,
and a text that lists literals with commas is a row without brackets. Texts that follow one another
are one text. A sign may stand before a number, and a number may be joined to an imaginary one.
-/

namespace SeedStream.Literal

/-- The texts and bytes at the start of some tokens, joined to one; they must be of one kind. -/
def joined? : List Token → Option (Literal × List Token)
  | .text t :: rest =>
    match rest with
    | .text _ :: _ => do
      match ← joined? rest with
      | (text u, rest) => some (text (t ++ u), rest)
      | _ => none
    | .bytes _ :: _ => none
    | _ => some (text t, rest)
  | .bytes bs :: rest =>
    match rest with
    | .bytes _ :: _ => do
      match ← joined? rest with
      | (bytes cs, rest) => some (bytes (bs ++ cs), rest)
      | _ => none
    | .text _ :: _ => none
    | _ => some (bytes bs, rest)
  | _ => none

/-- The value of a word. -/
def word? (cs : List Char) : Option Literal :=
  if cs = "None".toList then some null
  else if cs = "True".toList then some (bool true)
  else if cs = "False".toList then some (bool false)
  else none

/-- A number with its sign turned round. -/
def negated? : Literal → Option Literal
  | int i => some (int (-i))
  | real x => some (real (-x))
  | complex re im => some (complex (-re) (-im))
  | _ => none

/-- A number that may stand behind a sign. -/
def unsigned? : Literal → Option Literal
  | int i => some (int i)
  | real x => some (real x)
  | complex re im => some (complex re im)
  | _ => none

/-- A real number joined to a complex one by a sum or a difference. -/
def joinedNumbers? (difference : Bool) (a b : Literal) : Option Literal :=
  let left : Option Float :=
    match a with
    | int i => Double.ofInt? i
    | real x => some x
    | _ => none
  match left, b with
  | some x, complex re im =>
    some (if difference then complex (x - re) (0.0 - im) else complex (x + re) (0.0 + im))
  | _, _ => none

mutual

/-- The literal at the start of some tokens; `fuel` exceeds four times their number. -/
def expression? : Nat → List Token → Option (Literal × List Token)
  | 0, _ => none
  | fuel + 1, ts => do
    let (left, rest) ←
      match ts with
      | .mark '-' :: rest =>
        let (x, rest) ← atom? fuel rest
        pure (← negated? x, rest)
      | .mark '+' :: rest =>
        let (x, rest) ← atom? fuel rest
        pure (← unsigned? x, rest)
      | _ => atom? fuel ts
    match rest with
    | .mark '+' :: rest => do
      let (x, rest) ← atom? fuel rest
      return (← joinedNumbers? false left x, rest)
    | .mark '-' :: rest => do
      let (x, rest) ← atom? fuel rest
      return (← joinedNumbers? true left x, rest)
    | _ => return (left, rest)

/-- A literal that is no sum and has no sign. -/
def atom? : Nat → List Token → Option (Literal × List Token)
  | 0, _ => none
  | fuel + 1, ts =>
    match ts with
    | .number x :: rest => some (x, rest)
    | .dots :: rest => some (dots, rest)
    | .word cs :: rest =>
      match rest with
      | .mark '(' :: .mark ')' :: rest => if cs = "set".toList then some (set [], rest) else none
      | _ => (word? cs).map fun x => (x, rest)
    | .mark '(' :: .mark ')' :: rest => some (row [], rest)
    | .mark '(' :: rest => do
      let ((xs, comma), rest) ← items? ')' fuel rest
      match xs, comma with
      | [x], false => some (x, rest)
      | _, _ => some (row xs, rest)
    | .mark '[' :: .mark ']' :: rest => some (list [], rest)
    | .mark '[' :: rest => do
      let ((xs, _), rest) ← items? ']' fuel rest
      return (list xs, rest)
    | .mark '\x7b' :: .mark '\x7d' :: rest => some (fields [], rest)
    | .mark '\x7b' :: rest => do
      let (x, behind) ← expression? fuel rest
      match behind with
      | .mark ':' :: _ => do
        let (fs, rest) ← fields? fuel rest
        return (fields fs, rest)
      | _ => do
        let ((xs, _), rest) ← itemsBehind? '\x7d' fuel x behind
        return (set xs, rest)
    | _ => joined? ts

/-- The items up to a closing bracket, one at least, and whether a comma stands among them. -/
def items? (closing : Char) : Nat → List Token → Option ((List Literal × Bool) × List Token)
  | 0, _ => none
  | fuel + 1, ts => do
    let (x, rest) ← expression? fuel ts
    itemsBehind? closing fuel x rest

/-- The items up to a closing bracket of which the first was read. -/
def itemsBehind? (closing : Char) :
    Nat → Literal → List Token → Option ((List Literal × Bool) × List Token)
  | 0, _, _ => none
  | fuel + 1, x, ts =>
    match ts with
    | .mark ',' :: .mark c :: rest =>
      if c = closing then some (([x], true), rest)
      else do
        let ((xs, _), rest) ← items? closing fuel (.mark c :: rest)
        return ((x :: xs, true), rest)
    | .mark ',' :: rest => do
      let ((xs, _), rest) ← items? closing fuel rest
      return ((x :: xs, true), rest)
    | .mark c :: rest => if c = closing then some (([x], false), rest) else none
    | _ => none

/-- The fields up to a closing brace, one at least. -/
def fields? : Nat → List Token → Option (List (Literal × Literal) × List Token)
  | 0, _ => none
  | fuel + 1, ts => do
    let (k, rest) ← expression? fuel ts
    match rest with
    | .mark ':' :: rest => do
      let (x, rest) ← expression? fuel rest
      match rest with
      | .mark '\x7d' :: rest => some ([(k, x)], rest)
      | .mark ',' :: .mark '\x7d' :: rest => some ([(k, x)], rest)
      | .mark ',' :: rest => do
        let (fs, rest) ← fields? fuel rest
        return ((k, x) :: fs, rest)
      | _ => none
    | _ => none

end

/-- The mark that ends the tokens of a text. -/
def ending : Token := .mark '\n'

/-- The literal that a text writes, as it is written. -/
def read? (cs : List Char) : Option Literal := do
  let ts ← tokens? cs
  let ((xs, comma), rest) ← items? '\n' (4 * ts.length + 8) (ts ++ [ending])
  if !rest.isEmpty then none
  else
    match xs, comma with
    | [x], false => some x
    | _, _ => some (row xs)

end SeedStream.Literal
