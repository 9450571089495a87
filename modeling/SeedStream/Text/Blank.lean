import SeedStream.Text.Letter

/-!
# Blank characters

The characters that trimming removes from the ends of a text. Numerals are read with a smaller
set: the four ASCII separators are blank in a text but not around a number.
-/

namespace SeedStream.Text

/-- A space, a line end or another separator of any script. -/
def isBlank (c : Char) : Bool :=
  let n := c.toNat
  (9 ≤ n && n ≤ 13) || (0x1c ≤ n && n ≤ 0x20) || n == 0x85 || n == 0xa0 || n == 0x1680 ||
    (0x2000 ≤ n && n ≤ 0x200a) || n == 0x2028 || n == 0x2029 || n == 0x202f || n == 0x205f ||
    n == 0x3000

/-- A blank that may stand around a number: every one but the four ASCII separators. -/
def isNumberBlank (c : Char) : Bool :=
  isBlank c && !(0x1c ≤ c.toNat && c.toNat ≤ 0x1f)

/-- Remove what a test accepts from both ends of a row. -/
def trim {α : Type} (p : α → Bool) (xs : List α) : List α :=
  ((xs.dropWhile p).reverse.dropWhile p).reverse

/-- Remove the blanks from both ends. -/
def strip (t : Text) : Text :=
  trim (Letter.satisfies isBlank) t

theorem isBlank_of_isWhitespace {c : Char} (h : c.isWhitespace = true) : isBlank c = true := by
  simp only [Char.isWhitespace, Bool.or_eq_true, decide_eq_true_eq] at h
  rcases h with ((rfl | rfl) | rfl) | rfl <;> rfl

theorem isBlank_of_isNumberBlank {c : Char} (h : isNumberBlank c = true) : isBlank c = true := by
  simp [isNumberBlank] at h
  exact h.1

@[simp] theorem strip_nil : strip [] = [] := rfl

/-- What a test accepts around a row of nothing that it accepts is removed. -/
theorem trim_between {α : Type} {p : α → Bool} {before xs after : List α} (left : ∀ x ∈ before, p x = true)
    (right : ∀ x ∈ after, p x = true) (none : ∀ x ∈ xs, p x = false) : trim p (before ++ xs ++ after) = xs := by
  have keeps (ys : List α) (sub : ∀ x ∈ ys, x ∈ xs) : ys.dropWhile p = ys := by
    cases ys with
    | nil => rfl
    | cons y rest => rw [List.dropWhile_cons, none y (sub y List.mem_cons_self), if_neg Bool.false_ne_true]
  have start : (before ++ xs ++ after).dropWhile p = (xs ++ after).dropWhile p := by
    rw [List.append_assoc, List.dropWhile_append_of_pos left]
  rw [trim, start]
  cases xs with
  | nil =>
    rw [List.nil_append, ← List.append_nil after, List.dropWhile_append_of_pos right]
    rfl
  | cons x rest =>
    have first := none x List.mem_cons_self
    rw [List.cons_append, List.dropWhile_cons, first, if_neg Bool.false_ne_true, ← List.cons_append, List.reverse_append,
      List.dropWhile_append_of_pos fun y member => right y (List.mem_reverse.mp member),
      keeps _ fun y => List.mem_reverse.mp, List.reverse_reverse]

end SeedStream.Text
