import SeedStream.Text.Letter

/-!
# UTF-8

Characters as bytes and back. Reading refuses the first sequence that no character is written as,
with the position of its bytes and the reason. A letter that is no character has no bytes, but in
the names of files some halves of pairs stand for single bytes.
-/

namespace SeedStream.Text

/-- Why bytes are not UTF-8. -/
inductive Utf8Reason
  /-- No character begins with the byte. -/
  | start
  /-- A byte within a character does not continue it. -/
  | continuation
  /-- The bytes end within a character. -/
  | truncated
  deriving DecidableEq, Repr

/-- Where bytes fail to be UTF-8. -/
structure Utf8Error where
  /-- The position of the first byte of the refused sequence. -/
  start : Nat
  /-- The number of bytes in the refused sequence. -/
  length : Nat
  /-- The first byte of the refused sequence. -/
  byte : UInt8
  /-- Why the sequence is refused. -/
  reason : Utf8Reason
  deriving DecidableEq, Repr

/-- The bytes of one character. -/
def charBytes (c : Char) : List UInt8 :=
  let n := c.toNat
  if n < 0x80 then [UInt8.ofNat n]
  else if n < 0x800 then [UInt8.ofNat (0xc0 + n / 64), UInt8.ofNat (0x80 + n % 64)]
  else if n < 0x10000 then
    [UInt8.ofNat (0xe0 + n / 4096), UInt8.ofNat (0x80 + n / 64 % 64), UInt8.ofNat (0x80 + n % 64)]
  else
    [UInt8.ofNat (0xf0 + n / 262144), UInt8.ofNat (0x80 + n / 4096 % 64),
      UInt8.ofNat (0x80 + n / 64 % 64), UInt8.ofNat (0x80 + n % 64)]

/-- The bytes of a text. -/
def encodeUtf8 (cs : List Char) : List UInt8 :=
  cs.flatMap charBytes

/-- Where letters have no bytes. -/
structure LetterError where
  /-- The position of the first such letter. -/
  start : Nat
  /-- The number of such letters in a row. -/
  length : Nat
  /-- The first such letter. -/
  letter : Letter
  deriving DecidableEq, Repr

/-- The byte that a letter stands for in the name of a file though it is no character. -/
def nameByte? : Letter → Option UInt8
  | .char _ => none
  | .half u => if 0x480 ≤ u.val ∧ u.val < 0x500 then some (UInt8.ofNat (u.val - 0x400)) else none

/-- The bytes of letters, `position` of which come before; `byte?` gives the bytes of those that are
    no characters. -/
def bytesFrom (byte? : Letter → Option UInt8) (position : Nat) :
    Text → Except LetterError (List UInt8)
  | [] => .ok []
  | .char c :: rest => (bytesFrom byte? (position + 1) rest).map (charBytes c ++ ·)
  | .half u :: rest =>
    match byte? (.half u) with
    | some b => (bytesFrom byte? (position + 1) rest).map (b :: ·)
    | none => .error ⟨position, 1 + (rest.takeWhile Letter.isHalf).length, .half u⟩

/-- The bytes of a text. -/
def bytes (t : Text) : Except LetterError (List UInt8) :=
  bytesFrom (fun _ => none) 0 t

/-- The bytes of the name of a file. -/
def nameBytes (t : Text) : Except LetterError (List UInt8) :=
  bytesFrom nameByte? 0 t

/-- A byte that continues a character. -/
def isContinuation (b : UInt8) : Bool :=
  0x80 ≤ b && b ≤ 0xbf

/-- The low six bits of a continuation byte. -/
def payload (b : UInt8) : Nat :=
  b.toNat % 64

/-- The second byte keeps a sequence that begins with `first` from naming a code point that has a
    shorter form, is a surrogate or lies beyond the last one. -/
def mayFollow (first second : UInt8) : Bool :=
  isContinuation second &&
    (if first = 0xe0 then 0xa0 ≤ second
     else if first = 0xed then second ≤ 0x9f
     else if first = 0xf0 then 0x90 ≤ second
     else if first = 0xf4 then second ≤ 0x8f
     else true)

/-- What the first bytes of a text hold: a character with its number of bytes, or the reason and
    length of a refused sequence. -/
def firstChar (b : UInt8) (rest : List UInt8) : Except (Utf8Reason × Nat) (Char × Nat) :=
  if b < 0x80 then .ok (Char.ofNat b.toNat, 1)
  else if b < 0xc2 || 0xf4 < b then .error (.start, 1)
  else if b < 0xe0 then
    match rest with
    | [] => .error (.truncated, 1)
    | b1 :: _ =>
      if isContinuation b1 then .ok (Char.ofNat (b.toNat % 32 * 64 + payload b1), 2)
      else .error (.continuation, 1)
  else if b < 0xf0 then
    match rest with
    | [] => .error (.truncated, 1)
    | b1 :: more =>
      if !mayFollow b b1 then .error (.continuation, 1)
      else
        match more with
        | [] => .error (.truncated, 2)
        | b2 :: _ =>
          if isContinuation b2 then
            .ok (Char.ofNat (b.toNat % 16 * 4096 + payload b1 * 64 + payload b2), 3)
          else .error (.continuation, 2)
  else
    match rest with
    | [] => .error (.truncated, 1)
    | b1 :: more =>
      if !mayFollow b b1 then .error (.continuation, 1)
      else
        match more with
        | [] => .error (.truncated, 2)
        | b2 :: last =>
          if !isContinuation b2 then .error (.continuation, 2)
          else
            match last with
            | [] => .error (.truncated, 3)
            | b3 :: _ =>
              if isContinuation b3 then
                .ok (Char.ofNat (b.toNat % 8 * 262144 + payload b1 * 4096 + payload b2 * 64 +
                  payload b3), 4)
              else .error (.continuation, 3)

/-- Read the bytes from `position` on; `skip` of them belong to the character before, and
    `done` holds the characters read, last first. -/
def decodeFrom (position skip : Nat) (done : List Char) : List UInt8 → Except Utf8Error (List Char)
  | [] => .ok done.reverse
  | b :: rest =>
    match skip with
    | skip + 1 => decodeFrom (position + 1) skip done rest
    | 0 =>
      match firstChar b rest with
      | .ok (c, size) => decodeFrom (position + 1) (size - 1) (c :: done) rest
      | .error (reason, length) => .error ⟨position, length, b, reason⟩

/-- The text that bytes hold. -/
def decodeUtf8 (bytes : List UInt8) : Except Utf8Error (List Char) :=
  decodeFrom 0 0 [] bytes

/-- The words that a message uses for the reason. -/
def Utf8Reason.message : Utf8Reason → String
  | .start => "invalid start byte"
  | .continuation => "invalid continuation byte"
  | .truncated => "unexpected end of data"

@[simp] theorem encodeUtf8_nil : encodeUtf8 [] = [] := rfl

theorem encodeUtf8_append (as bs : List Char) : encodeUtf8 (as ++ bs) = encodeUtf8 as ++ encodeUtf8 bs := by
  simp [encodeUtf8]

/-- Characters have the bytes of UTF-8. -/
theorem bytes_ofChars (cs : List Char) : bytes (ofChars cs) = .ok (encodeUtf8 cs) := by
  have all (position : Nat) : bytesFrom (fun _ => none) position (ofChars cs) = .ok (encodeUtf8 cs) := by
    induction cs generalizing position with
    | nil => rfl
    | cons c rest ih =>
      have tail := ih (position + 1)
      simp only [ofChars] at tail
      simp [ofChars, bytesFrom, tail, encodeUtf8, Except.map]
  exact all 0

/-- An ASCII character is one byte. -/
theorem charBytes_ascii {c : Char} (h : c.toNat < 0x80) : charBytes c = [UInt8.ofNat c.toNat] := by
  simp [charBytes, h]

end SeedStream.Text
