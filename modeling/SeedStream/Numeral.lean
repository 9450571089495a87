/-!
# Numerals

Whole numbers as text: decimal numerals without leading zeros, and hexadecimal numerals in capital
letters with a least width.
-/

namespace SeedStream.Numeral

/-- The digit of a value below sixteen, in capital letters. -/
def digitChar (d : Nat) : Char :=
  if d < 10 then Char.ofNat (48 + d) else Char.ofNat (55 + d)

/-- Put the digits of a number in a base above one before `tail`, most significant first. -/
def digitsOnto (base : Nat) (above : 1 < base) (n : Nat) (tail : List Char) : List Char :=
  if n < base then digitChar n :: tail
  else digitsOnto base above (n / base) (digitChar (n % base) :: tail)
termination_by n
decreasing_by exact Nat.div_lt_self (by omega) above

/-- The decimal numeral of a natural number. -/
def decimal (n : Nat) : List Char :=
  digitsOnto 10 (by decide) n []

/-- The hexadecimal numeral of a natural number. -/
def hex (n : Nat) : List Char :=
  digitsOnto 16 (by decide) n []

/-- Put zeros before a numeral until it has at least `width` characters. -/
def padZeros (width : Nat) (cs : List Char) : List Char :=
  List.replicate (width - cs.length) '0' ++ cs

/-- The decimal numeral of an integer. -/
def signed : Int → List Char
  | .ofNat n => decimal n
  | .negSucc n => '-' :: decimal (n + 1)

/-- The hexadecimal numeral of an integer with at least `width` characters, a sign included. -/
def signedHex (width : Nat) : Int → List Char
  | .ofNat n => padZeros width (hex n)
  | .negSucc n => '-' :: padZeros (width - 1) (hex (n + 1))

/-- The text of a natural number. -/
def ofNat (n : Nat) : String :=
  String.ofList (decimal n)

/-- The text of an integer. -/
def ofInt (i : Int) : String :=
  String.ofList (signed i)

theorem digitsOnto_append (base : Nat) (above : 1 < base) (n : Nat) (tail : List Char) :
    digitsOnto base above n tail = digitsOnto base above n [] ++ tail := by
  induction n using Nat.strongRecOn generalizing tail with
  | _ n ih =>
    by_cases h : n < base
    · rw [digitsOnto.eq_def base above n tail, digitsOnto.eq_def base above n []]; simp [h]
    · have smaller : n / base < n := Nat.div_lt_self (by omega) above
      rw [digitsOnto.eq_def base above n tail, if_neg h, ih _ smaller,
        digitsOnto.eq_def base above n [], if_neg h,
        ih _ smaller [digitChar (n % base)]]
      simp

theorem decimal_of_lt {n : Nat} (h : n < 10) : decimal n = [digitChar n] := by
  rw [decimal, digitsOnto, if_pos h]

/-- A numeral has a digit. -/
theorem digitsOnto_ne_nil (base : Nat) (above : 1 < base) (n : Nat) (tail : List Char) :
    digitsOnto base above n tail ≠ [] := by
  fun_induction digitsOnto base above n tail with
  | case1 => simp
  | case2 _ _ _ ih => exact ih

end SeedStream.Numeral
