/-!
# Lines

Two rules for line ends. A text file is read with every line end, `\r\n` and `\r` included, as a
single `\n`. Cutting a text into lines knows ten further separators, and a separator at the end
opens no further line.
-/

namespace SeedStream.Text

/-- Write every line end of a text file as one line feed. -/
def unifyNewlines : List Char → List Char
  | [] => []
  | '\r' :: '\n' :: rest => '\n' :: unifyNewlines rest
  | '\r' :: rest => '\n' :: unifyNewlines rest
  | c :: rest => c :: unifyNewlines rest

/-- A character that ends a line. -/
def isLineEnd (c : Char) : Bool :=
  let n := c.toNat
  (10 ≤ n && n ≤ 13) || (0x1c ≤ n && n ≤ 0x1e) || n == 0x85 || n == 0x2028 || n == 0x2029

/-- The lines of the rest of a text, where `line` holds the characters of the current line so far,
    last first. -/
def linesFrom (line : List Char) : List Char → List (List Char)
  | [] => if line.isEmpty then [] else [line.reverse]
  | '\r' :: '\n' :: rest => line.reverse :: linesFrom [] rest
  | c :: rest => if isLineEnd c then line.reverse :: linesFrom [] rest else linesFrom (c :: line) rest

/-- The lines of a text without their ends. -/
def lines (cs : List Char) : List (List Char) :=
  linesFrom [] cs

@[simp] theorem lines_nil : lines [] = [] := rfl

end SeedStream.Text
