import Mathlib.Data.Nat.Digits.Lemmas
import SeedStream.Json.Scanner
import SeedStream.Word

/-!
# Digits of numerals

A numeral is the row of the digits of its number, most significant first (`Numeral.digitsOnto_eq`), and every
reader of digits gives the number back. A word has eight hexadecimal digits behind its mark, and they are
those at the eight places (`Word.hex_eq`). Integers of any size and sign have different texts
(`Word.hexText_injective`).
-/

namespace SeedStream

/-! ## One digit -/

namespace Numeral

variable {d : Nat}

theorem decimalValue?_digitChar (small : d < 10) : Text.decimalValue? (digitChar d) = some d := by
  interval_cases d <;> rfl

theorem digitValue?_digitChar (small : d < 16) : Integer.digitValue? (digitChar d) = some d := by
  interval_cases d <;> rfl

theorem hexValue?_digitChar (small : d < 16) : Json.hexValue? (digitChar d) = some d := by
  interval_cases d <;> rfl

theorem isDigit_digitChar (small : d < 10) : (digitChar d).isDigit = true := by
  interval_cases d <;> rfl

theorem toNat_digitChar (small : d < 10) : (digitChar d).toNat = 48 + d := by
  interval_cases d <;> rfl

theorem isAlphanum_digitChar (small : d < 16) : (digitChar d).isAlphanum = true := by
  interval_cases d <;> rfl

theorem digitChar_eq_nat (small : d < 10) : digitChar d = Nat.digitChar d := by
  interval_cases d <;> rfl

theorem digitChar_eq_zero_iff (small : d < 16) : digitChar d = '0' ↔ d = 0 := by
  interval_cases d <;> decide

end Numeral

/-! ## Rows of digits -/

namespace Numeral

/-- The digits of a number, most significant first; zero has one. -/
def digitsOf (base n : Nat) : List Nat :=
  if n = 0 then [0] else (Nat.digits base n).reverse

/-- The number that a row of digits stands for. -/
def valueOf (base : Nat) (ds : List Nat) : Nat :=
  ds.foldl (fun n d => n * base + d) 0

theorem digitsOf_of_lt {base n : Nat} (small : n < base) : digitsOf base n = [n] := by
  by_cases zero : n = 0
  · rw [digitsOf, if_pos zero, zero]
  · rw [digitsOf, if_neg zero, Nat.digits_of_lt base n zero small, List.reverse_singleton]

theorem digitsOf_of_le {base n : Nat} (above : 1 < base) (large : base ≤ n) :
    digitsOf base n = digitsOf base (n / base) ++ [n % base] := by
  have rest : n / base ≠ 0 := (Nat.div_pos large (by omega)).ne'
  rw [digitsOf, if_neg (by omega), Nat.digits_def' above (by omega), List.reverse_cons, digitsOf, if_neg rest]

theorem digitsOnto_eq (base : Nat) (above : 1 < base) (n : Nat) (tail : List Char) :
    digitsOnto base above n tail = (digitsOf base n).map digitChar ++ tail := by
  fun_induction digitsOnto base above n tail with
  | case1 n tail small => rw [digitsOf_of_lt small, List.map_singleton, List.singleton_append]
  | case2 n tail large ih =>
    rw [ih, digitsOf_of_le above (Nat.le_of_not_lt large), List.map_append, List.append_assoc]
    rfl

theorem decimal_eq (n : Nat) : decimal n = (digitsOf 10 n).map digitChar := by
  rw [decimal, digitsOnto_eq, List.append_nil]

theorem hex_eq (n : Nat) : hex n = (digitsOf 16 n).map digitChar := by
  rw [hex, digitsOnto_eq, List.append_nil]

theorem digitsOf_ne_nil (base n : Nat) : digitsOf base n ≠ [] := by
  rw [digitsOf]
  split
  · exact List.cons_ne_nil _ _
  · rwa [ne_eq, List.reverse_eq_nil_iff, Nat.digits_eq_nil_iff_eq_zero]

theorem lt_of_mem_digitsOf {base n d : Nat} (above : 1 < base) (member : d ∈ digitsOf base n) : d < base := by
  rw [digitsOf] at member
  split at member
  · rw [List.mem_singleton.mp member]
    omega
  · exact Nat.digits_lt_base above (List.mem_reverse.mp member)

theorem length_digitsOf_le {base n k : Nat} (above : 1 < base) (places : 0 < k) (small : n < base ^ k) :
    (digitsOf base n).length ≤ k := by
  rw [digitsOf]
  split
  · exact places
  · rw [List.length_reverse]
    exact (Nat.digits_length_le_iff above n).mpr small

/-- Only the digits of zero begin with a zero. -/
theorem head?_digitsOf {base n : Nat} (proper : n ≠ 0) : ∃ d, (digitsOf base n).head? = some d ∧ d ≠ 0 := by
  have digits := Nat.digits_ne_nil_iff_ne_zero (b := base).mpr proper
  refine ⟨(Nat.digits base n).getLast digits, ?_, Nat.getLast_digit_ne_zero base proper⟩
  rw [digitsOf, if_neg proper, List.head?_reverse, List.getLast?_eq_some_getLast digits]

theorem valueOf_reverse (base : Nat) (ds : List Nat) : valueOf base ds.reverse = Nat.ofDigits base ds := by
  rw [valueOf, List.foldl_reverse, Nat.ofDigits_eq_foldr]
  congr 1
  funext d n
  rw [Nat.cast_id, Nat.mul_comm, Nat.add_comm]

theorem valueOf_digitsOf (base n : Nat) : valueOf base (digitsOf base n) = n := by
  rw [digitsOf]
  split
  case isTrue zero => rw [zero, valueOf, List.foldl_cons, List.foldl_nil, Nat.zero_mul]
  case isFalse => rw [valueOf_reverse, Nat.ofDigits_digits]

theorem ofDigits_places (base n k : Nat) :
    Nat.ofDigits base ((List.range k).map fun i => n / base ^ i % base) = n % base ^ k := by
  induction k with
  | zero => rw [Nat.pow_zero, Nat.mod_one, List.range_zero, List.map_nil, Nat.ofDigits_nil]
  | succ k ih =>
    rw [List.range_succ, List.map_append, Nat.ofDigits_append, ih, List.length_map, List.length_range, List.map_singleton,
      Nat.ofDigits_singleton, Nat.mod_pow_succ]

theorem valueOf_zeros (base k : Nat) (ds : List Nat) : valueOf base (List.replicate k 0 ++ ds) = valueOf base ds := by
  rw [valueOf, List.foldl_append]
  congr 1
  induction k with
  | zero => rfl
  | succ k ih => rw [List.replicate_succ, List.foldl_cons, Nat.zero_mul, ih]

theorem lt_of_mem_zeros_append {base k n d : Nat} (above : 1 < base)
    (member : d ∈ List.replicate k 0 ++ digitsOf base n) : d < base := by
  rcases List.mem_append.mp member with zero | digit
  · rw [List.eq_of_mem_replicate zero]
    omega
  · exact lt_of_mem_digitsOf above digit

theorem padZeros_map (width : Nat) (ds : List Nat) :
    padZeros width (ds.map digitChar) = (List.replicate (width - ds.length) 0 ++ ds).map digitChar := by
  rw [padZeros, List.length_map, List.map_append, List.map_replicate]
  rfl

theorem decimal_eq_toDigits (n : Nat) : decimal n = Nat.toDigits 10 n := by
  induction n using Nat.strongRecOn with
  | _ n ih =>
    by_cases small : n < 10
    · rw [decimal_of_lt small, Nat.toDigits_of_lt_base small, digitChar_eq_nat small]
    · have large := Nat.le_of_not_lt small
      have last : n % 10 < 10 := Nat.mod_lt n (by decide)
      rw [decimal_eq, digitsOf_of_le (by decide) large, List.map_append, ← decimal_eq, ih (n / 10) (by omega),
        Nat.toDigits_of_base_le (by decide) large, List.map_singleton, digitChar_eq_nat last]

theorem decimal_zero : decimal 0 = ['0'] := by
  rw [decimal_of_lt (by decide)]
  rfl

theorem decimal_cons (n : Nat) : ∃ d ds, decimal n = digitChar d :: ds ∧ d < 10 ∧ (n ≠ 0 → d ≠ 0) := by
  obtain ⟨d, ds, digits⟩ := List.exists_cons_of_ne_nil (digitsOf_ne_nil 10 n)
  refine ⟨d, ds.map digitChar, ?_, lt_of_mem_digitsOf (by decide) (digits ▸ List.mem_cons_self), fun proper => ?_⟩
  · rw [decimal_eq, digits, List.map_cons]
  · obtain ⟨e, first, nonzero⟩ := @head?_digitsOf 10 n proper
    rw [digits, List.head?_cons] at first
    exact Option.some.inj first ▸ nonzero

theorem isDigit_of_mem_decimal {n : Nat} {c : Char} (member : c ∈ decimal n) : c.isDigit = true := by
  rw [decimal_eq_toDigits] at member
  exact Nat.isDigit_of_mem_toDigits (by decide) (by decide) member

end Numeral

/-! ## Reading digits -/

namespace Integer

open Numeral

theorem isDigitOf_digitChar {base d : Nat} (most : base ≤ 16) (small : d < base) :
    isDigitOf base (digitChar d) = true := by
  rw [isDigitOf, digitValue?_digitChar (by omega)]
  exact decide_eq_true small

theorem digitChar_ne_bar {d : Nat} (small : d < 16) : digitChar d ≠ '_' := by
  interval_cases d <;> decide

theorem digitsFrom_map {base : Nat} (most : base ≤ 16) {ds : List Nat} (valid : ∀ d ∈ ds, d < base) (n count : Nat) :
    digitsFrom base n count (ds.map digitChar) =
      some ⟨ds.foldl (fun n d => n * base + d) n, count + ds.length, []⟩ := by
  induction ds generalizing n count with
  | nil => rfl
  | cons d ds ih =>
    obtain ⟨first, others⟩ := List.forall_mem_cons.mp valid
    have value := digitValue?_digitChar (show d < 16 by omega)
    have bar := digitChar_ne_bar (show d < 16 by omega)
    rw [List.map_cons, digitsFrom.eq_3 _ _ _ _ _ (fun _ _ same => absurd same bar), if_neg bar,
      if_pos (isDigitOf_digitChar most first), value, Option.getD_some, ih others, List.foldl_cons, List.length_cons]
    congr 2
    omega

/-- A row of digits is read as the number that it stands for, unless it is too long a decimal numeral. -/
theorem magnitude_map {base : Nat} (most : base ≤ 16) {ds : List Nat} (digits : ds ≠ [])
    (valid : ∀ d ∈ ds, d < base) (short : base = 10 → ds.length ≤ maxDigits) :
    magnitude base (ds.map digitChar) = .ok (valueOf base ds) := by
  obtain ⟨d, rest, rfl⟩ := List.exists_cons_of_ne_nil digits
  have row : row? base ((d :: rest).map digitChar) = some ⟨valueOf base (d :: rest), (d :: rest).length, []⟩ := by
    have start := isDigitOf_digitChar most (valid d List.mem_cons_self)
    have read := digitsFrom_map most valid 0 0
    rw [Nat.zero_add] at read
    rw [List.map_cons] at read ⊢
    simp only [row?, start, if_true]
    exact read
  have length : ¬ (base = 10 ∧ maxDigits < (d :: rest).length) := fun long => absurd (short long.1) (by omega)
  rw [magnitude, row]
  simp only [if_neg length, List.isEmpty_nil, if_true]

theorem range_of_isAlphanum {c : Char} (word : c.isAlphanum = true) : 48 ≤ c.toNat ∧ c.toNat ≤ 122 := by
  have ranges : (((decide (65 ≤ c.toNat ∧ c.toNat ≤ 90) || (decide (97 ≤ c.toNat) && decide (c.toNat ≤ 122))) ||
      (decide (48 ≤ c.toNat) && decide (c.toNat ≤ 57))) = true) := word
  simp only [Bool.or_eq_true, Bool.and_eq_true, decide_eq_true_eq] at ranges
  omega

theorem isNumberBlank_of_isAlphanum {c : Char} (word : c.isAlphanum = true) : Text.isNumberBlank c = false := by
  have range := range_of_isAlphanum word
  simp only [Text.isNumberBlank, Text.isBlank, Bool.and_eq_false_iff, Bool.or_eq_false_iff, decide_eq_false_iff_not,
    beq_eq_false_iff_ne]
  omega

/-- A numeral without a sign and blanks is read from its start. -/
theorem parse_of_isAlphanum (spelling : Spelling) {cs : List Char} (word : ∀ c ∈ cs, c.isAlphanum = true) :
    parse spelling cs = (unsigned spelling cs).map Int.ofNat := by
  have trimmed : Text.trim Text.isNumberBlank cs = cs := by
    have whole := @Text.trim_between Char Text.isNumberBlank [] cs [] nofun nofun fun c member =>
      isNumberBlank_of_isAlphanum (word c member)
    rwa [List.append_nil] at whole
  rw [parse, trimmed]
  cases cs with
  | nil => rfl
  | cons c rest =>
    have first := word c List.mem_cons_self
    split
    case h_1 same =>
      cases same
      cases first
    case h_2 same =>
      cases same
      cases first
    case h_3 => rfl

theorem isAlphanum_of_mem_map {ds : List Nat} (valid : ∀ d ∈ ds, d < 16) :
    ∀ c ∈ ds.map digitChar, c.isAlphanum = true := by
  intro c member
  obtain ⟨d, inside, rfl⟩ := List.mem_map.mp member
  exact isAlphanum_digitChar (valid d inside)

/-- Digits behind the mark of hexadecimal numerals are read as the number that they stand for. -/
theorem parse_marked_hex {ds : List Nat} (digits : ds ≠ []) (valid : ∀ d ∈ ds, d < 16) :
    parse .marked ('0' :: 'x' :: ds.map digitChar) = .ok (valueOf 16 ds) := by
  have word : ∀ c ∈ '0' :: 'x' :: ds.map digitChar, c.isAlphanum = true :=
    List.forall_mem_cons.mpr ⟨rfl, List.forall_mem_cons.mpr ⟨rfl, isAlphanum_of_mem_map valid⟩⟩
  have behind : afterMark 16 (ds.map digitChar) = magnitude 16 (ds.map digitChar) := by
    obtain ⟨d, rest, rfl⟩ := List.exists_cons_of_ne_nil digits
    rw [List.map_cons, afterMark.eq_2]
    intro _ same
    exact digitChar_ne_bar (valid d List.mem_cons_self) (List.cons.inj same).1
  have read : unsigned .marked ('0' :: 'x' :: ds.map digitChar) = afterMark 16 (ds.map digitChar) := rfl
  rw [parse_of_isAlphanum _ word, read, behind,
    magnitude_map (by decide) digits valid fun same => absurd same (by decide)]
  rfl

theorem isWritable_of_lt {i : Int} {k : Nat} (places : 0 < k) (few : k ≤ maxDigits) (small : i.natAbs < 10 ^ k) :
    isWritable i = true := by
  rw [isWritable, decimal_eq, List.length_map]
  exact decide_eq_true (Nat.le_trans (length_digitsOf_le (by decide) places small) few)

theorem parse_decimal (spelling : Spelling) {n : Nat} (short : (decimal n).length ≤ maxDigits) :
    parse spelling (decimal n) = .ok (n : Int) := by
  have valid : ∀ d ∈ digitsOf 10 n, d < 10 := fun d => lt_of_mem_digitsOf (by decide)
  have read : magnitude 10 (decimal n) = .ok n := by
    rw [decimal_eq, List.length_map] at short
    rw [decimal_eq, magnitude_map (by decide) (digitsOf_ne_nil 10 n) valid fun _ => short, valueOf_digitsOf]
  -- No numeral but that of zero begins with a zero, which the marked spelling would not take for a decimal one.
  have whole : unsigned spelling (decimal n) = magnitude 10 (decimal n) := by
    cases spelling with
    | plain => rfl
    | marked =>
      by_cases zero : n = 0
      · rw [zero, decimal_zero]
        rfl
      · obtain ⟨d, rest, text, small, nonzero⟩ := decimal_cons n
        have proper := nonzero zero
        have start : startsWithZero (decimal n) = false := by
          rw [text, startsWithZero, decimalValue?_digitChar small]
          exact beq_eq_false_iff_ne.mpr fun same => proper (Option.some.inj same)
        rw [unsigned, start, if_neg Bool.false_ne_true]
  have word : ∀ c ∈ decimal n, c.isAlphanum = true := by
    rw [decimal_eq]
    exact isAlphanum_of_mem_map fun d member => by have := valid d member; omega
  rw [parse_of_isAlphanum _ word, whole, read]
  rfl

end Integer

/-- Whoever reads every digit as its value and puts the digits together reads a numeral as its number. -/
theorem Numeral.foldl_decimal {read : Char → Nat} (reads : ∀ d < 10, read (digitChar d) = d) (n : Nat) :
    (decimal n).foldl (fun m c => 10 * m + read c) 0 = n := by
  have each (ds : List Nat) (valid : ∀ d ∈ ds, d < 10) (m : Nat) :
      (ds.map digitChar).foldl (fun m c => 10 * m + read c) m = ds.foldl (fun m d => m * 10 + d) m := by
    induction ds generalizing m with
    | nil => rfl
    | cons d ds ih =>
      obtain ⟨first, others⟩ := List.forall_mem_cons.mp valid
      rw [List.map_cons, List.foldl_cons, List.foldl_cons, ih others, reads d first, Nat.mul_comm]
  rw [decimal_eq, each _ fun d => lt_of_mem_digitsOf (by decide)]
  exact valueOf_digitsOf 10 n

/-! ## Hexadecimal numerals with a sign -/

namespace Numeral

/-- A padded numeral is a row of digits, whose values are its digits' behind zeros. -/
theorem padZeros_hex (width n : Nat) : ∃ ds, padZeros width (hex n) = ds.map digitChar ∧ (∀ d ∈ ds, d < 16) ∧
    valueOf 16 ds = n := by
  rw [hex_eq, padZeros_map]
  refine ⟨_, rfl, fun d => lt_of_mem_zeros_append (by decide), ?_⟩
  rw [valueOf_zeros, valueOf_digitsOf]

theorem padZeros_hex_inj {width m n : Nat} (same : padZeros width (hex m) = padZeros width (hex n)) : m = n := by
  have read (ds : List Nat) (small : ∀ d ∈ ds, d < 16) : (ds.map digitChar).map Integer.digitValue? = ds.map some := by
    rw [List.map_map]
    exact List.map_congr_left fun d member => digitValue?_digitChar (small d member)
  obtain ⟨as, left, smallA, rfl⟩ := padZeros_hex width m
  obtain ⟨bs, right, smallB, rfl⟩ := padZeros_hex width n
  rw [left, right] at same
  have values := congrArg (List.map Integer.digitValue?) same
  rw [read as smallA, read bs smallB] at values
  rw [List.map_injective_iff.mpr (Option.some_injective Nat) values]

theorem minus_notMem_padZeros_hex (width n : Nat) : '-' ∉ padZeros width (hex n) := by
  intro member
  obtain ⟨ds, row, small, -⟩ := padZeros_hex width n
  rw [row] at member
  have letter := Integer.isAlphanum_of_mem_map small '-' member
  cases letter

/-- Different integers have different numerals, although a sign takes the place of a zero. -/
theorem signedHex_inj {width : Nat} {a b : Int} (same : signedHex width a = signedHex width b) : a = b := by
  cases a with
  | ofNat m =>
    cases b with
    | ofNat n => rw [padZeros_hex_inj same]
    | negSucc n =>
      have sign : '-' ∈ padZeros width (hex m) := List.mem_of_mem_head? (congrArg List.head? same)
      exact absurd sign (minus_notMem_padZeros_hex width m)
  | negSucc m =>
    cases b with
    | ofNat n =>
      have sign : '-' ∈ padZeros width (hex n) := List.mem_of_mem_head? (congrArg List.head? same.symm)
      exact absurd sign (minus_notMem_padZeros_hex width n)
    | negSucc n =>
      have digits := (List.cons.inj same).2
      rw [Nat.succ.inj (padZeros_hex_inj digits)]

end Numeral

/-! ## The text of a word -/

namespace Word

open Numeral

/-- The eight hexadecimal digits of a word, most significant first. -/
def hexDigits (w : Word) : List Nat :=
  [7, 6, 5, 4, 3, 2, 1, 0].map fun k => w.toNat / 16 ^ k % 16

theorem lt_of_mem_hexDigits {w : Word} {d : Nat} (member : d ∈ hexDigits w) : d < 16 := by
  obtain ⟨k, -, rfl⟩ := List.mem_map.mp member
  exact Nat.mod_lt _ (by decide)

theorem valueOf_hexDigits (w : Word) : valueOf 16 (hexDigits w) = w.toNat := by
  have places : hexDigits w = ((List.range 8).map fun k => w.toNat / 16 ^ k % 16).reverse := rfl
  rw [places, valueOf_reverse, ofDigits_places]
  exact Nat.mod_eq_of_lt w.toNat_lt

theorem eq_of_valueOf_eq {as bs : List Nat} (length : as.length = bs.length) (left : ∀ d ∈ as, d < 16)
    (right : ∀ d ∈ bs, d < 16) (value : valueOf 16 as = valueOf 16 bs) : as = bs := by
  rw [← as.reverse_reverse, ← bs.reverse_reverse, valueOf_reverse, valueOf_reverse] at value
  have same : as.reverse = bs.reverse :=
    Nat.ofDigits_inj_of_len_eq (b := 16) (by decide) (by simpa using length)
      (fun d member => left d (List.mem_reverse.mp member)) (fun d member => right d (List.mem_reverse.mp member)) value
  exact List.reverse_injective same

/-- The text of a word is a mark and its eight hexadecimal digits in capital letters. -/
theorem hex_eq (w : Word) : (hex w).toList = '0' :: 'x' :: (hexDigits w).map digitChar := by
  have few : (digitsOf 16 w.toNat).length ≤ 8 := length_digitsOf_le (by decide) (by decide) w.toNat_lt
  -- Both are rows of eight digits that stand for the same number.
  have padded : List.replicate (8 - (digitsOf 16 w.toNat).length) 0 ++ digitsOf 16 w.toNat = hexDigits w := by
    refine eq_of_valueOf_eq ?_ (fun d => lt_of_mem_zeros_append (by decide)) (fun d => lt_of_mem_hexDigits) ?_
    · rw [List.length_append, List.length_replicate, Nat.sub_add_cancel few]
      rfl
    · rw [valueOf_zeros, valueOf_digitsOf, valueOf_hexDigits]
  rw [hex, hexText, String.toList_ofList, show ((w.toNat : Nat) : Int) = Int.ofNat w.toNat from rfl, signedHex,
    Numeral.hex_eq, padZeros_map, padded]

theorem hexText_injective : Function.Injective hexText := by
  intro a b same
  have letters := String.ofList_inj.mp same
  have behindMark := (List.cons.inj (List.cons.inj letters).2).2
  exact Numeral.signedHex_inj behindMark

theorem isAlphanum_of_mem_hex (w : Word) : ∀ c ∈ (hex w).toList, c.isAlphanum = true := by
  rw [hex_eq]
  refine List.forall_mem_cons.mpr ⟨rfl, List.forall_mem_cons.mpr ⟨rfl, ?_⟩⟩
  exact Integer.isAlphanum_of_mem_map fun d => lt_of_mem_hexDigits

theorem parse_hex (w : Word) : Integer.parse .marked (hex w).toList = .ok (w.toNat : Int) := by
  rw [hex_eq, Integer.parse_marked_hex (by simp [hexDigits]) fun d => lt_of_mem_hexDigits, valueOf_hexDigits]

theorem parse_decimal (w : Word) : Integer.parse .marked (decimal w.toNat) = .ok (w.toNat : Int) := by
  have few : (digitsOf 10 w.toNat).length ≤ 10 :=
    length_digitsOf_le (by decide) (by decide) (Nat.lt_trans w.toNat_lt (by decide))
  refine Integer.parse_decimal .marked ?_
  rw [decimal_eq, List.length_map]
  exact Nat.le_trans few (by decide)

end Word

end SeedStream
