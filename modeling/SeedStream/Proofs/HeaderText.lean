import Mathlib.Data.Bool.AllAny
import SeedStream.Output.Npy.Header
import SeedStream.Proofs.Digits
import SeedStream.Proofs.TextFiles

/-!
# The text of a header

The header of a row of words is read as any literal is: it falls into its tokens (`tokensFrom_header`), these are
read as three fields (`read?_header`), and the fields say the type, the order and the only length of the row
(`Npy.ofText_header`). The blanks behind it do not count.
-/

namespace SeedStream

/-- The header of a row of so many words with so many blanks behind it. -/
def Npy.blankedHeader (n m : Nat) : List Char :=
  headerText n ++ (List.replicate m ' ' ++ ['\n'])

namespace Literal

open Numeral

/-! ## Numbers among the tokens -/

/-- A row of decimal digits ends where something else stands that is no bar. -/
theorem digitRow?_map {ds : List Nat} (valid : ∀ d ∈ ds, d < 10) (behindDigit : Bool) (rest : List Char) :
    digitRow? 10 behindDigit (ds.map digitChar ++ ',' :: rest) = some (ds.map digitChar, ',' :: rest) := by
  induction ds generalizing behindDigit with
  | nil => rfl
  | cons d ds ih =>
    obtain ⟨first, others⟩ := List.forall_mem_cons.mp valid
    have bar := Integer.digitChar_ne_bar (show d < 16 by omega)
    have digit : isDigitOf 10 (digitChar d) = true := by
      rw [isDigitOf, hexValue?_digitChar (by omega)]
      exact decide_eq_true first
    rw [List.map_cons, List.cons_append, digitRow?.eq_3 _ _ _ _ (fun _ _ same => absurd same bar), if_neg bar,
      if_pos digit, ih others]
    rfl

theorem digitRow?_decimal (n : Nat) (rest : List Char) :
    digitRow? 10 false (decimal n ++ ',' :: rest) = some (decimal n, ',' :: rest) := by
  rw [decimal_eq, digitRow?_map fun d => lt_of_mem_digitsOf (by decide)]

theorem wholeNumber?_decimal {n : Nat} (short : (decimal n).length ≤ Integer.maxDigits) :
    wholeNumber? (decimal n) = some (.int n) := by
  have plain : ((decimal n).head? = some '0' && (decimal n).any (· != '0')) = false := by
    by_cases zero : n = 0
    · rw [zero, decimal_zero]
      rfl
    · obtain ⟨d, ds, text, small, nonzero⟩ := decimal_cons n
      have other : ¬ (decimal n).head? = some '0' := by
        rw [text, List.head?_cons, Option.some.injEq, digitChar_eq_zero_iff (by omega)]
        exact nonzero zero
      rw [decide_eq_false other, Bool.false_and]
  have value : digitsValue 10 (decimal n) = n :=
    foldl_decimal (fun d small => by rw [hexValue?_digitChar (by omega), Option.getD_some]) n
  rw [wholeNumber?, plain, if_neg Bool.false_ne_true, if_neg (Nat.not_lt.mpr short), value]

theorem numeral?_decimal {n : Nat} (short : (decimal n).length ≤ Integer.maxDigits) (rest : List Char) :
    numeral? (decimal n ++ ',' :: rest) = some (.int n, ',' :: rest) := by
  have whole : decimalNumber? (decimal n ++ ',' :: rest) = some (.int n, ',' :: rest) := by
    rw [decimalNumber?, digitRow?_decimal]
    change (wholeNumber? (decimal n)).bind (fun x => some (x, ',' :: rest)) = _
    rw [wholeNumber?_decimal short]
    rfl
  rw [← whole]
  by_cases zero : n = 0
  · rw [zero, decimal_zero]
    rfl
  · obtain ⟨d, ds, text, small, nonzero⟩ := decimal_cons n
    rw [text, List.cons_append, numeral?.eq_2]
    intro _ _ same
    exact nonzero zero ((digitChar_eq_zero_iff (by omega)).mp (List.cons.inj same).1)

theorem token?_decimal {n : Nat} (short : (decimal n).length ≤ Integer.maxDigits) (rest : List Char) :
    token? (decimal n ++ ',' :: rest) = some (.number (.int n), ',' :: rest) := by
  obtain ⟨d, ds, text, small, -⟩ := decimal_cons n
  have quote : isQuote (digitChar d) = false := by interval_cases d <;> rfl
  have number := numeral?_decimal short rest
  rw [text, List.cons_append] at number ⊢
  rw [token?, quote, if_neg Bool.false_ne_true, isDigit_digitChar small, Bool.true_or, if_pos rfl, number]
  rfl

/-! ## Texts among the tokens -/

/-- A character that stands for itself between single quotes. -/
def isUnescaped (c : Char) : Bool :=
  c != '\x27' && c != '\x5c' && c != '\n'

theorem upToQuote?_unescaped {cs : List Char} (plain : ∀ c ∈ cs, isUnescaped c = true) (rest : List Char) :
    upToQuote? '\x27' false (cs ++ '\x27' :: rest) = some (cs, rest) := by
  induction cs with
  | nil => rfl
  | cons c cs ih =>
    obtain ⟨first, others⟩ := List.forall_mem_cons.mp plain
    simp only [isUnescaped, Bool.and_eq_true, bne_iff_ne] at first
    obtain ⟨⟨quote, slash⟩, line⟩ := first
    rw [List.cons_append, upToQuote?, ih others, decide_eq_false quote, decide_eq_false line]
    · rfl
    · exact fun _ _ same => absurd same slash

theorem unescape?_unescaped {cs : List Char} (plain : ∀ c ∈ cs, isUnescaped c = true) :
    unescape? false 0 cs = some (cs.map Char.toNat) := by
  induction cs with
  | nil => rfl
  | cons c cs ih =>
    obtain ⟨first, others⟩ := List.forall_mem_cons.mp plain
    simp only [isUnescaped, Bool.and_eq_true, bne_iff_ne] at first
    rw [unescape?.eq_def]
    dsimp only
    rw [if_pos first.1.2, ih others]
    rfl

theorem token?_quoted {cs : List Char} (full : cs ≠ []) (plain : ∀ c ∈ cs, isUnescaped c = true) (rest : List Char) :
    token? ('\x27' :: (cs ++ '\x27' :: rest)) = some (.text (Text.ofChars cs), rest) := by
  obtain ⟨c, more, rfl⟩ := List.exists_cons_of_ne_nil full
  have first := plain c List.mem_cons_self
  simp only [isUnescaped, Bool.and_eq_true, bne_iff_ne] at first
  have single : ((c :: more ++ '\x27' :: rest).take 2 == ['\x27', '\x27']) = false := by
    rw [beq_eq_false_iff_ne]
    exact fun same => first.1.1 (List.cons.inj same).1
  have letters : ((c :: more).map Char.toNat).map Letter.ofNat = Text.ofChars (c :: more) := by
    rw [List.map_map, Text.ofChars]
    exact List.map_congr_left fun c _ => by rw [Function.comp_apply, Text.ofNat_toNat]
  have content : content? ⟨false, false⟩ (c :: more) = some (.text (Text.ofChars (c :: more))) := by
    unfold content?
    simp only [Bool.false_and, Bool.false_eq_true, if_false, unescape?_unescaped plain, Option.bind_eq_bind,
      Option.bind_some, letters]
    rfl
  have quote : isQuote '\x27' = true := rfl
  -- One quote that is not doubled opens a text that ends at the next quote.
  rw [token?, quote, if_pos rfl, quotedToken?]
  simp only [opening?, List.map_nil, single, Bool.false_eq_true, if_false]
  change (upToQuote? '\x27' false (c :: more ++ '\x27' :: rest)).bind
    (fun r => (content? ⟨false, false⟩ r.1).bind fun t => some (t, r.2)) = _
  rw [upToQuote?_unescaped plain, Option.bind_some, content]
  rfl

/-! ## The literal of a header -/

theorem tokensFrom_blanks (fuel m : Nat) :
    tokensFrom (fuel + m + 1) false 0 (List.replicate m ' ' ++ ['\n']) = some [] := by
  induction m generalizing fuel with
  | zero => rfl
  | succ m ih =>
    rw [List.replicate_succ, List.cons_append]
    exact ih fuel

/-- A character with which a token begins. -/
def beginsToken (c : Char) : Bool :=
  c != '#' && c != '\x5c' && c != '\n' && !isLineBlank c

theorem tokensFrom_token {c : Char} {cs rest : List Char} {token : Token} {levels behind : Nat} {ts : List Token}
    {fuel : Nat} (begins : beginsToken c = true) (read : token? (c :: cs) = some (token, rest))
    (inside : levelsBehind? levels token = some behind) (more : tokensFrom fuel false behind rest = some ts) :
    tokensFrom (fuel + 1) false levels (c :: cs) = some (token :: ts) := by
  simp only [beginsToken, Bool.and_eq_true, bne_iff_ne, Bool.not_eq_true'] at begins
  obtain ⟨⟨⟨hash, slash⟩, line⟩, blank⟩ := begins
  rw [tokensFrom, if_neg Bool.false_ne_true]
  · rw [if_neg (by rw [blank]; exact Bool.false_ne_true), if_neg line, read]
    change (levelsBehind? levels token).bind (fun levels =>
      (tokensFrom fuel false levels rest).bind fun ts => some (token :: ts)) = _
    rw [inside, Option.bind_some, more]
    rfl
  · exact hash
  · exact fun _ same => absurd same slash

theorem tokensFrom_blank (fuel levels : Nat) (rest : List Char) :
    tokensFrom (fuel + 1) false levels (' ' :: rest) = tokensFrom fuel false levels rest := rfl

theorem tokensFrom_brace (fuel levels : Nat) (rest : List Char) :
    tokensFrom (fuel + 1) true levels ('\x7b' :: rest) = tokensFrom fuel false levels ('\x7b' :: rest) := rfl

/-- The tokens of a header with a number of items. -/
def headerTokens (n : Nat) : List Token :=
  [.mark '\x7b', .text (Text.ofChars "descr".toList), .mark ':', .text (Text.ofChars "<u4".toList), .mark ',',
    .text (Text.ofChars "fortran_order".toList), .mark ':', .word "False".toList, .mark ',',
    .text (Text.ofChars "shape".toList), .mark ':', .mark '(', .number (.int n), .mark ',', .mark ')', .mark ',',
    .mark '\x7d']

theorem tokensFrom_header {n : Nat} (short : (decimal n).length ≤ Integer.maxDigits) (fuel m : Nat) :
    tokensFrom (fuel + m + 25) true 0 (Npy.blankedHeader n m) = some (headerTokens n) := by
  have text (rest : List Char) : Npy.headerText n ++ rest =
      '\x7b' :: '\x27' :: ("descr".toList ++ '\x27' :: ':' :: ' ' :: '\x27' :: ("<u4".toList ++ '\x27' :: ',' :: ' ' ::
        '\x27' :: ("fortran_order".toList ++ '\x27' :: ':' :: ' ' :: 'F' :: 'a' :: 'l' :: 's' :: 'e' :: ',' :: ' ' ::
          '\x27' :: ("shape".toList ++ '\x27' :: ':' :: ' ' :: '(' :: (decimal n ++ ',' :: ')' :: ',' :: ' ' :: '\x7d' ::
            rest))))) := by
    rw [Npy.headerText, List.append_assoc, List.append_assoc]
    rfl
  obtain ⟨d, ds, digits, small, -⟩ := decimal_cons n
  have number := token?_decimal short
  have begins : beginsToken (digitChar d) = true := by interval_cases d <;> rfl
  rw [Npy.blankedHeader, text, tokensFrom_brace]
  -- One step for each token in the order in which they stand; the braces and the brackets keep the levels balanced.
  refine tokensFrom_token rfl rfl rfl ?_
  refine tokensFrom_token rfl (token?_quoted (by decide) (List.all_eq_true.mp rfl) _) rfl ?_
  refine tokensFrom_token rfl rfl rfl ?_
  rw [tokensFrom_blank]
  refine tokensFrom_token rfl (token?_quoted (by decide) (List.all_eq_true.mp rfl) _) rfl ?_
  refine tokensFrom_token rfl rfl rfl ?_
  rw [tokensFrom_blank]
  refine tokensFrom_token rfl (token?_quoted (by decide) (List.all_eq_true.mp rfl) _) rfl ?_
  refine tokensFrom_token rfl rfl rfl ?_
  rw [tokensFrom_blank]
  refine tokensFrom_token rfl rfl rfl ?_
  refine tokensFrom_token rfl rfl rfl ?_
  rw [tokensFrom_blank]
  refine tokensFrom_token rfl (token?_quoted (by decide) (List.all_eq_true.mp rfl) _) rfl ?_
  refine tokensFrom_token rfl rfl rfl ?_
  rw [tokensFrom_blank]
  refine tokensFrom_token rfl rfl rfl ?_
  rw [digits] at number ⊢
  refine tokensFrom_token begins (number _) rfl ?_
  refine tokensFrom_token rfl rfl rfl ?_
  refine tokensFrom_token rfl rfl rfl ?_
  refine tokensFrom_token rfl rfl rfl ?_
  rw [tokensFrom_blank]
  refine tokensFrom_token rfl rfl rfl ?_
  exact tokensFrom_blanks fuel m

/-- The fields of a header with a number of items. -/
def headerFields (n : Nat) : List (Literal × Literal) :=
  [(.text (Text.ofChars "descr".toList), .text (Text.ofChars "<u4".toList)),
    (.text (Text.ofChars "fortran_order".toList), .bool false),
    (.text (Text.ofChars "shape".toList), .row [.int n])]

/-- A header is made of characters that are shown, and a line feed. -/
theorem shown_of_mem_header {n m : Nat} {c : Char}
    (member : c ∈ Npy.blankedHeader n m) : c = '\n' ∨ (0x20 ≤ c.toNat ∧ c.toNat < 0x80) := by
  have start : ∀ c ∈ Npy.headerStart, 0x20 ≤ c.toNat ∧ c.toNat < 0x80 := List.all_iff_forall_prop.mp (by decide)
  have tail : ∀ c ∈ ",), \x7d".toList, 0x20 ≤ c.toNat ∧ c.toNat < 0x80 := List.all_iff_forall_prop.mp (by decide)
  rw [Npy.blankedHeader, Npy.headerText, List.mem_append, List.mem_append, List.mem_append, List.mem_append,
    List.mem_singleton] at member
  rcases member with ((inStart | inDigits) | inTail) | inBlanks | atEnd
  · exact .inr (start c inStart)
  · have letter : c.isAlphanum = true := by rw [Char.isAlphanum, isDigit_of_mem_decimal inDigits, Bool.or_true]
    have range := Integer.range_of_isAlphanum letter
    exact .inr (by omega)
  · exact .inr (tail c inTail)
  · rw [List.eq_of_mem_replicate inBlanks]
    exact .inr (by decide)
  · exact .inl atEnd

theorem read?_header {n : Nat} (short : (decimal n).length ≤ Integer.maxDigits) (m : Nat) :
    read? (Npy.blankedHeader n m) = some (.fields (headerFields n)) := by
  have lined : lined (Npy.blankedHeader n m) = Npy.blankedHeader n m := by
    refine Text.unifyNewlines_eq_self fun member => ?_
    have shown := shown_of_mem_header (n := n) (m := m) member
    exact absurd shown (by decide)
  have length : ∃ fuel, 2 * (Npy.blankedHeader n m).length + 2 = fuel + m + 25 := by
    have start : Npy.headerStart.length = 51 := rfl
    have blanks : 51 + m ≤ (Npy.blankedHeader n m).length := by
      simp only [Npy.blankedHeader, List.length_append, List.length_replicate, Npy.headerText, start]
      omega
    exact ⟨2 * (Npy.blankedHeader n m).length - m - 23, by omega⟩
  have tokens : tokens? (Npy.blankedHeader n m) = some (headerTokens n) := by
    obtain ⟨fuel, enough⟩ := length
    rw [tokens?, lined, enough, tokensFrom_header short]
  -- The tokens are known but for the number, which no rule of the items looks into.
  have items : items? '\n' (4 * (headerTokens n).length + 8) (headerTokens n ++ [ending]) =
      some (([.fields (headerFields n)], false), []) := rfl
  simp only [read?, tokens, Option.bind_eq_bind, Option.bind_some, items]
  rfl

end Literal

namespace Npy

open Literal Numeral

/-- The header of a row of words is read as its type, its order and its only length. -/
theorem ofText_header {n : Nat} (short : (decimal n).length ≤ Integer.maxDigits) (older : Bool) (m : Nat) :
    Header.ofText older (blankedHeader n m) =
      .ok ⟨.number ⟨.natural, 4, false⟩, false, [.int n]⟩ := by
  have literal : literalOf older (blankedHeader n m) = .ok (.fields (headerFields n)) := by
    have noNull : (blankedHeader n m).contains '\x00' = false := by
      rw [List.contains_eq_mem, decide_eq_false_iff_not]
      intro member
      have shown := shown_of_mem_header (n := n) (m := m) member
      exact absurd shown (by decide)
    rw [literalOf, noNull, if_neg Bool.false_ne_true, read?_header short]
    rfl
  rw [Header.ofText, literal]
  rfl

end Npy

end SeedStream
