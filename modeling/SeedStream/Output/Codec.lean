import SeedStream.FileTree
import SeedStream.Output.Format
import SeedStream.Output.Npy
import SeedStream.Text.Lines

/-!
# Samples as bytes

The bytes of a file that holds a sample of words in a format, and the sample that such bytes hold.
A text file has a word on each line; when it is read, blanks around a word and blank lines do not
count and a word may be written in any base.
-/

namespace SeedStream.Output

/-! ## Writing -/

/-- The line that a text format writes for a word. -/
def line (decimal : Bool) (w : Word) : List Char :=
  if decimal then Numeral.decimal w.toNat else (Word.hex w).toList

/-- The lines that a format writes for a sample, if it is a text format. -/
def lines (f : Format) (ws : List Word) : Except Failure (List (List Char)) :=
  match f with
  | .hex => .ok (ws.map (line false))
  | .dec => .ok (ws.map (line true))
  | _ => .error (.value (.binaryFormat (quote f.text)))

/-- Lines with a line feed between each two and at the end. -/
def textFile (ls : List (List Char)) : List Char :=
  match ls with
  | [] => ['\n']
  | _ => ls.flatMap (· ++ ['\n'])

/-- A sample as the bytes of a file. -/
def encode (f : Format) (ws : List Word) : List UInt8 :=
  match f with
  | .hex => Text.encodeUtf8 (textFile (ws.map (line false)))
  | .dec => Text.encodeUtf8 (textFile (ws.map (line true)))
  | .bin => ws.flatMap Word.bytes
  | .npy => Npy.encode ws

/-! ## Reading -/

/-- The words of a row of bytes, four to each. -/
def wordsOfBytes? : List UInt8 → Option (List Word)
  | [] => some []
  | b0 :: b1 :: b2 :: b3 :: rest => (wordsOfBytes? rest).map (Word.ofBytes b0 b1 b2 b3 :: ·)
  | _ => none

/-- The lines of a text that hold a word, without the blanks around it. -/
def wordLines (cs : List Char) : List Text :=
  ((Text.lines (Text.unifyNewlines cs)).map fun (l : List Char) => Text.strip l).filter (· ≠ [])

/-- The words of a text file; every line is read before any number is looked at. -/
def decodeText (cs : List Char) : Except Failure (List Word) := do
  let numbers ← (wordLines cs).mapM (Value.integerOfText .marked)
  let words ← numbers.mapM fun n => (Value.int n).asWordNumber
  return words.map Word.ofInt

/-- The sample that the bytes of a file hold. -/
def decode [Memory] (f : Format) (bytes : List UInt8) : Except Failure WordArray :=
  match f with
  | .npy => Npy.decode bytes
  | .bin =>
    match wordsOfBytes? bytes with
    | some ws => .ok ⟨[ws.length], ws⟩
    | none => .error (.value .partialWord)
  | _ =>
    match Text.decodeUtf8 bytes with
    | .error e => .error (.utf8 e)
    | .ok cs => (decodeText cs).map fun ws => ⟨[ws.length], ws⟩

end SeedStream.Output
