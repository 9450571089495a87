/-!
# Letters

A text is a row of letters. A letter is a character or, because escapes can write one, half of a
pair of units whose other half is missing. Such a half is no digit, no blank and no part of any
name; where only characters count, a text is read with the replacement character in its place.
-/

namespace SeedStream

/-- A letter of a text. -/
inductive Letter
  | char (c : Char)
  /-- Half of a pair of units, counted from the first of them. -/
  | half (u : Fin 0x800)
  deriving DecidableEq, Repr

instance : Inhabited Letter := ⟨.char ' '⟩

namespace Letter

/-- The first code point that is half of a pair. -/
def firstHalf : Nat := 0xd800

/-- The code point of a letter. -/
def toNat : Letter → Nat
  | char c => c.toNat
  | half u => firstHalf + u.val

/-- The letter of a code point. -/
def ofNat (n : Nat) : Letter :=
  if h : n - firstHalf < 0x800 ∧ firstHalf ≤ n then half ⟨n - firstHalf, h.1⟩ else char (Char.ofNat n)

/-- The character of a letter, where half a pair counts as the replacement character. -/
def toChar : Letter → Char
  | char c => c
  | half _ => Char.ofNat 0xfffd

/-- Half of a pair. -/
def isHalf : Letter → Bool
  | char _ => false
  | half _ => true

/-- A letter is a character of one class. -/
def satisfies (p : Char → Bool) : Letter → Bool
  | char c => p c
  | half _ => false

end Letter

/-- A row of letters. -/
abbrev Text := List Letter

namespace Text

/-- The text of characters. -/
def ofChars (cs : List Char) : Text :=
  cs.map Letter.char

/-- The text of a string. -/
def ofString (s : String) : Text :=
  ofChars s.toList

/-- The characters of a text. -/
def chars (t : Text) : List Char :=
  t.map Letter.toChar

/-- The string of a text. -/
def toString (t : Text) : String :=
  String.ofList t.chars

instance : Coe String Text := ⟨ofString⟩

instance : Coe (List Char) Text := ⟨ofChars⟩

/-- Texts one after another with a string between each two. -/
def between (separator : String) : List Text → Text
  | [] => []
  | [t] => t
  | t :: rest => t ++ ofString separator ++ between separator rest

@[simp] theorem chars_ofChars (cs : List Char) : chars (ofChars cs) = cs := by
  have same : Letter.toChar ∘ Letter.char = id := rfl
  simp [chars, ofChars, same]

/-- Different characters make different texts. -/
theorem ofChars_inj {as bs : List Char} : ofChars as = ofChars bs ↔ as = bs := by
  constructor
  · intro h
    rw [← chars_ofChars as, h, chars_ofChars]
  · exact fun h => h ▸ rfl

theorem ofChars_append (as bs : List Char) : ofChars (as ++ bs) = ofChars as ++ ofChars bs := by
  simp [ofChars]

/-- The letter of a code point has that code point. -/
theorem toNat_ofNat {n : Nat} (h : n < 0x110000) : (Letter.ofNat n).toNat = n := by
  unfold Letter.ofNat
  split
  · next half => simp only [Letter.toNat]; omega
  · next whole =>
    have valid : n.isValidChar := by
      simp only [Nat.isValidChar]
      simp only [Letter.firstHalf] at whole
      omega
    rw [Char.ofNat, dif_pos valid]
    rfl

/-- A character is the letter of its code point. -/
theorem ofNat_toNat (c : Char) : Letter.ofNat c.toNat = .char c := by
  have valid : c.toNat.isValidChar := c.valid
  rw [Letter.ofNat, dif_neg, Char.ofNat_toNat]
  simp only [Letter.firstHalf]
  rcases valid with low | high <;> omega

end Text

end SeedStream
