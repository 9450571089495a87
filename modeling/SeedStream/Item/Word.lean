import SeedStream.Item.Basic
import SeedStream.Word

/-!
# Items as words

The word that the bytes of an item stand for: integers are cut to 32 bits, real numbers lose their
places and complex numbers their imaginary part, a text is read as a decimal numeral, and a record
of one field is what the field is. Records of several fields are no words, and neither is an array
of several items within a record.
-/

namespace SeedStream.ItemType

/-! ## Numbers -/

/-- The number of a row of bytes, the least significant first. -/
def bytesNumber : List UInt8 → Nat
  | [] => 0
  | b :: rest => b.toNat + 256 * bytesNumber rest

/-- The number of the bytes of an item. -/
def orderedNumber (bigFirst : Bool) (bytes : List UInt8) : Nat :=
  bytesNumber (if bigFirst then bytes.reverse else bytes)

/-- The integer of a number of `bits` bits with a sign. -/
def signedNumber (bits n : Nat) : Int :=
  if Nat.pow 2 (bits - 1) ≤ n then (n : Int) - Nat.pow 2 bits else n

/-- What the bits of a real number with `e` bits of exponent and `f` of fraction stand for. -/
def realParts (e f n : Nat) : Double.Parts :=
  let negative := n / Nat.pow 2 (e + f) % 2 == 1
  let scale := n / Nat.pow 2 f % Nat.pow 2 e
  let fraction := n % Nat.pow 2 f
  let bias : Int := Nat.pow 2 (e - 1) - 1
  if scale = Nat.pow 2 e - 1 then if fraction = 0 then .infinite negative else .nan
  else if scale = 0 then .finite negative fraction (1 - bias - f)
  else .finite negative (Nat.pow 2 f + fraction) (Int.ofNat scale - bias - f)

/-- What the bits of an extended real number stand for: fifteen bits of exponent above a mantissa of
    64 bits, the first of which is written. -/
def extendedParts (n : Nat) : Double.Parts :=
  let negative := n / Nat.pow 2 79 % 2 == 1
  let scale := n / Nat.pow 2 64 % Nat.pow 2 15
  let mantissa := n % Nat.pow 2 64
  if scale = Nat.pow 2 15 - 1 then if mantissa % Nat.pow 2 63 = 0 then .infinite negative else .nan
  else .finite negative mantissa (Int.ofNat (max scale 1) - 16383 - 63)

/-- What the bits of a real number of some bytes stand for. -/
def realOfSize (size n : Nat) : Double.Parts :=
  match size with
  | 2 => realParts 5 10 n
  | 4 => realParts 8 23 n
  | 8 => realParts 11 52 n
  | _ => extendedParts n

/-- The word that a real number is without its places; one beyond all words has none. -/
def realWord (p : Double.Parts) : Word :=
  match p with
  | .finite negative m q => Word.ofInt (Double.truncate negative m q)
  | _ => 0

/-- The word of the bytes of a number. -/
def numberWord (t : NumberType) (bytes : List UInt8) : Word :=
  let n := orderedNumber t.bigFirst bytes
  match t.kind with
  | .natural => Word.ofInt n
  | .integer => Word.ofInt (signedNumber (8 * t.size) n)
  | .bool => if n = 0 then 0 else 1
  | .real => realWord (realOfSize t.size n)
  | .complex =>
    let half := t.size / 2
    realWord (realOfSize half (orderedNumber t.bigFirst (bytes.take half)))

/-! ## Texts -/

/-- The word of a decimal numeral, which messages show. -/
def numeralWord (cs shown : List Char) : Except Failure Word :=
  match Integer.parse .plain cs with
  | .ok n => (Value.int n).asWordNumber.map Word.ofInt
  | .error .malformed => .error (.value (.integerItem shown))
  | .error (.tooLong digits) => .error (.value (.longInteger digits))

/-- A row without the nulls at its end. -/
def withoutNulls {α : Type} [BEq α] (null : α) (xs : List α) : List α :=
  (xs.reverse.dropWhile (· == null)).reverse

/-- A byte as a character; one that is not ASCII is no digit and no blank. -/
def asciiChar (b : UInt8) : Char :=
  if b < 0x80 then Char.ofNat b.toNat else Char.ofNat 0xfffd

/-- The word of a numeral in bytes. -/
def bytesWord (bytes : List UInt8) : Except Failure Word :=
  numeralWord (bytes.map asciiChar) (Text.quotedBytes (bytes.take 200))

/-- The numbers of the letters in a text, four bytes each. -/
def letterNumbers (bigFirst : Bool) : List UInt8 → List Nat
  | b0 :: b1 :: b2 :: b3 :: rest =>
    orderedNumber bigFirst [b0, b1, b2, b3] :: letterNumbers bigFirst rest
  | _ => []

/-- The number is that of a letter. -/
def isLetterNumber (n : Nat) : Bool :=
  n < 0x110000

/-- Numbers of letters between quotes; one beyond all letters is escaped. -/
def quotedNumbers (ns : List Nat) : List Char :=
  let quote := Text.quoteFor ((ns.filter isLetterNumber).map Letter.ofNat)
  let shown (n : Nat) : List Char :=
    if isLetterNumber n then Text.quoteLetter quote (.ofNat n) else Text.escapeCode n
  quote :: (ns.flatMap shown ++ [quote])

/-- The word of a numeral in letters. -/
def lettersWord (ns : List Nat) : Except Failure Word :=
  let cs := ns.map fun n => if isLetterNumber n then (Letter.ofNat n).toChar else Char.ofNat 0xfffd
  numeralWord cs ("np.str_(".toList ++ quotedNumbers ns ++ [')'])

/-! ## Items -/

/-- An item has no part besides those that stand for the whole of it. -/
def isSingle : ItemType → Bool
  | record [(_, t)] _ => isSingle t
  | record .. => false
  | array base _ => isSingle base
  | _ => true

/-- The lengths of an array within a record that has not just one item. -/
def spread? : ItemType → Option (List Nat)
  | record [(_, t)] _ => spread? t
  | array base lengths => if Shape.size lengths = 1 then spread? base else some lengths
  | _ => none

/-- Items of the type are words. -/
def checkWords (t : ItemType) : Except Failure Unit :=
  if !t.isSingle then .error (.kind (.cast t.shown))
  else
    match t.spread? with
    | some lengths =>
      .error (.value (.array (.broadcast (Shape.text (lengths.map Int.ofNat)))))
    | none => .ok ()

/-- The word of the bytes of an item. -/
def word : ItemType → List UInt8 → Except Failure Word
  | number t, bytes => .ok (numberWord t bytes)
  | time _ _ bigFirst, bytes => .ok (Word.ofInt (orderedNumber bigFirst bytes))
  | text .bytes _ _, bytes => bytesWord (withoutNulls 0 bytes)
  | text .blank _ _, bytes => bytesWord bytes
  | text .letters _ bigFirst, bytes => lettersWord (withoutNulls 0 (letterNumbers bigFirst bytes))
  | record [(head, t)] _, bytes => word t ((bytes.drop head.offset).take t.size)
  | array base _, bytes => word base bytes
  | _, _ => .ok 0

/-- The words of `count` items. -/
def words (t : ItemType) : Nat → List UInt8 → Except Failure (List Word)
  | 0, _ => .ok []
  | count + 1, bytes => do
    let w ← t.word (bytes.take t.size)
    return w :: (← words t count (bytes.drop t.size))

end SeedStream.ItemType
