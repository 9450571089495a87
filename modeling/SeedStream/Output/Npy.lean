import SeedStream.Item.Word
import SeedStream.Output.Npy.Header

/-!
# Array files

The NPY format: a mark, a version, the length of a header, the header and the items. One row of
words is written; arrays of items of any type and with any number of dimensions are read as words.
-/

namespace SeedStream

/-- An array of words: the lengths of its dimensions, and the words with the last dimension moving
    fastest. -/
structure WordArray where
  shape : List Nat
  words : List Word
  deriving DecidableEq, Repr

namespace Npy

/-- The bytes that begin an array file. -/
def mark : List UInt8 :=
  [0x93, 0x4e, 0x55, 0x4d, 0x50, 0x59]

/-! ## Writing -/

/-- A number of two bytes, the least significant first. -/
def shortBytes (n : Nat) : List UInt8 :=
  [UInt8.ofNat n, UInt8.ofNat (n / 256)]

/-- A row of words as an array file. -/
def encode (ws : List Word) : List UInt8 :=
  let header := paddedHeader ws.length
  mark ++ [1, 0] ++ shortBytes header.length ++ header.map (fun c => UInt8.ofNat c.toNat) ++
    ws.flatMap Word.bytes

/-! ## Order -/

/-- The place of an item whose first index moves fastest; `k` counts with the last one fastest. -/
def transposedIndex : List Nat → Nat → Nat
  | [], _ => 0
  | n :: rest, k =>
    let inner := rest.foldl (· * ·) 1
    k / inner % n + n * transposedIndex rest (k % inner)

/-- The words of an array whose first dimension moves fastest, put in the usual order. -/
def transpose (shape : List Nat) (ws : List Word) : List Word :=
  let items := ws.toArray
  (List.range ws.length).map fun k => items.getD (transposedIndex shape k) 0

/-! ## The header -/

/-- The next bytes of a part of the file, all of which must be there. -/
def part (name : String) (size : Nat) (bytes : List UInt8) :
    Except Failure (List UInt8 × List UInt8) :=
  let taken := bytes.take size
  if taken.length = size then .ok (taken, bytes.drop size)
  else refuse (.short name size taken.length)

/-- The greatest length of a header that is read. -/
def maxHeader : Nat := 10000

/-- The characters of a header: only the last version knows others than the first 256. -/
def headerChars (version : List UInt8) (header : List UInt8) : Except Failure (List Char) :=
  if version = [3, 0] then
    match Text.decodeUtf8 header with
    | .ok cs => .ok cs
    | .error e => .error (.utf8 e)
  else .ok (header.map fun b => Char.ofNat b.toNat)

/-- The header, and the bytes behind it. -/
def header (bytes : List UInt8) : Except Failure (Header × List UInt8) := do
  let (start, rest) ← part "magic string" 8 bytes
  let version := start.drop 6
  if version ≠ [1, 0] ∧ version ≠ [2, 0] ∧ version ≠ [3, 0] then
    refuse (.version ((version.headD 0).toNat) ((version.getLastD 0).toNat))
  else
    let (size, rest) ← part "array header length" (if version = [1, 0] then 2 else 4) rest
    let (text, rest) ← part "array header" (ItemType.bytesNumber size) rest
    let cs ← headerChars version text
    if maxHeader < cs.length then refuse (.longHeader cs.length)
    else return (← Header.ofText (version ≠ [3, 0]) cs, rest)

/-! ## The number of items -/

/-- An integer as a machine word with a sign. -/
def machineInt (i : Int) : Int :=
  Int.bmod i 0x10000000000000000

/-- An integer that has been a double; one beyond a machine word is the least machine word. -/
def roundedInt (i : Int) : Int :=
  match (Double.ofInt? i).map Double.parts with
  | some (.finite negative m q) =>
    let n := Double.truncate negative m q
    if Shape.isLength n then n else -arrayLimit
  | _ => -arrayLimit

/-- Lengths as machine words. Lengths that need an unsigned word are cut if all of them do, and else
    all of them are rounded as doubles are. -/
def machineLengths (lengths : List Int) : Except Failure (List Int) :=
  if lengths.any fun i => !Value.isLong i then .error (.range .long)
  else if lengths.all Shape.isLength then .ok lengths
  else if lengths.any Shape.isLength then .ok (lengths.map roundedInt)
  else .ok (lengths.map machineInt)

/-- The number of items that lengths make, as a machine word. -/
def itemCount (lengths : List Int) : Except Failure Int := do
  return (← machineLengths lengths).foldl (fun n i => machineInt (n * i)) 1

/-- There is memory for an array, which the file does not fill. -/
def checkMemory [Memory] (t : ItemType) (count : Nat) : Except Failure Unit :=
  let bytes := t.size * count
  let (inner, lengths) := t.flattened
  if arrayLimit ≤ bytes then .error (.value .arraySize)
  else if memoryLimit ≤ bytes then
    .error (.memory (.array bytes (Shape.text ((count :: lengths).map Int.ofNat)) inner.name))
  else .ok ()

/-- How many items are read of `count` that a header says; a negative number stands for all. -/
def itemsRead [Memory] (t : ItemType) (count : Int) (available : Nat) : Except Failure Nat :=
  if t.size = 0 then
    if count < 0 then .error (.value .negativeLength) else .ok count.toNat
  else
    let there := available / t.size
    if count < 0 then .ok there
    else if there < count then (checkMemory t count.toNat).map fun _ => there
    else .ok count.toNat

/-! ## Reading -/

/-- The value of a length as it is written. -/
def lengthValue : Literal → Value
  | .bool b => .bool b
  | .int i => .int i
  | _ => .null

/-- The lengths of an array of `count` items that has the shape of a header. -/
def filledShape (h : Header) (count : Nat) : Except Failure (List Nat) := do
  let turned {α : Type} (xs : List α) : List α := if h.firstFastest then xs.reverse else xs
  let lengths ← Shape.lengthsOf (turned (h.shape.map lengthValue))
  return turned (← Shape.fill count lengths)

/-- The array of words that a header and the bytes behind it stand for. -/
def decodeItems [Memory] (h : Header) (bytes : List UInt8) : Except Failure WordArray := do
  let count ← itemCount (h.shape.filterMap Literal.integer?)
  if h.items.hasObjects then refuse .objects
  else
    let (inner, lengths) := h.items.flattened
    let got := (← itemsRead h.items count bytes.length) * Shape.size lengths
    if got ≠ count then refuse (.items (← (Literal.row h.shape).display) count got)
    else
      let shape ← filledShape h got
      inner.checkWords
      let words ← inner.words got bytes
      return ⟨shape, if h.firstFastest then transpose shape words else words⟩

/-- The bytes begin as an archive does. -/
def isArchive (bytes : List UInt8) : Bool :=
  let start := bytes.take 4
  start == [0x50, 0x4b, 3, 4] || start == [0x50, 0x4b, 5, 6]

/-- The array of words in the bytes of an array file. -/
def decode [Memory] (bytes : List UInt8) : Except Failure WordArray := do
  if bytes.isEmpty then .error .endOfFile
  else if isArchive bytes then refuse .archive
  else if bytes.take 6 ≠ mark then refuse .foreign
  else
    let (h, rest) ← header bytes
    decodeItems h rest

end Npy

end SeedStream
