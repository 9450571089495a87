import Mathlib.Data.List.TakeWhile
import SeedStream.Json.Parser
import SeedStream.Proofs.JsonText

/-!
# JSON texts and back

A simple value that was written is read as it was, in one line or spread over lines (`parse_write`), if no more lists
and objects lie within one another than are read. Every reader is followed to the rest that it leaves; the steps of
the readers are fewer than the characters that they read.
-/

namespace SeedStream.Json

/-! ## Places -/

/-- A reader gives a value and leaves a rest of the text. -/
def Gives {α : Type} (result : Except Refusal (α × Place)) (a : α) (rest : List Char) : Prop :=
  ∃ position, result = .ok (a, ⟨position, rest⟩)

theorem skipBlanks_append {blanks : List Char} (blank : ∀ b ∈ blanks, isBlank b = true) {c : Char}
    (other : isBlank c = false) (position : Nat) (rest : List Char) :
    Place.skipBlanks ⟨position, blanks ++ c :: rest⟩ = ⟨position + blanks.length, c :: rest⟩ := by
  have before : (blanks ++ c :: rest).takeWhile isBlank = blanks := by
    rw [List.takeWhile_append_of_pos blank, List.takeWhile_cons, other, if_neg Bool.false_ne_true, List.append_nil]
  have behind : (blanks ++ c :: rest).dropWhile isBlank = c :: rest := by
    rw [List.dropWhile_append_of_pos blank, List.dropWhile_cons, other, if_neg Bool.false_ne_true]
  rw [Place.skipBlanks]
  simp only [before, behind]

theorem skipBlanks_cons {c : Char} (other : isBlank c = false) (position : Nat) (rest : List Char) :
    Place.skipBlanks ⟨position, c :: rest⟩ = ⟨position, c :: rest⟩ :=
  skipBlanks_append (List.forall_mem_nil _) other position rest

theorem skipBlanks_blanks {blanks : List Char} (blank : ∀ b ∈ blanks, isBlank b = true) (position : Nat) :
    (Place.skipBlanks ⟨position, blanks⟩).rest = [] := by
  rw [Place.skipBlanks]
  exact List.dropWhile_eq_nil_iff.mpr blank

/-! ## Leaves -/

theorem stringFrom_plain {cs : List Char} (plain : ∀ c ∈ cs, IsPlain c) (start position : Nat) (done : Text)
    (rest : List Char) :
    Gives (stringFrom start position 0 done (cs ++ '\x22' :: rest)) (done.reverse ++ Text.ofChars cs) rest := by
  induction cs generalizing position done with
  | nil =>
    refine ⟨position + 1, ?_⟩
    rw [List.nil_append, stringFrom, if_pos rfl, Text.ofChars, List.map_nil, List.append_nil]
  | cons c cs ih =>
    obtain ⟨⟨range, quote, backslash⟩, others⟩ := List.forall_mem_cons.mp plain
    have later := ih others (position + 1) (.char c :: done)
    rw [List.reverse_cons, List.append_assoc] at later
    rw [List.cons_append, stringFrom, if_neg quote, if_neg backslash, if_neg (by omega)]
    exact later

theorem string_plain {cs : List Char} (plain : ∀ c ∈ cs, IsPlain c) (position : Nat) (rest : List Char) :
    Gives (string ⟨position, cs ++ '\x22' :: rest⟩) (Text.ofChars cs) rest :=
  stringFrom_plain plain (position - 1) position [] rest

/-- A numeral ends before such a rest: no digit, point or exponent follows. -/
def Ends (rest : List Char) : Prop :=
  ∀ c ∈ rest.head?, c.isDigit = false ∧ c ≠ '.' ∧ c ≠ 'e' ∧ c ≠ 'E'

section

variable {rest : List Char}

theorem places_of_ends (ends : Ends rest) : places rest = ([], rest) := by
  cases rest with
  | nil => rfl
  | cons c rest =>
    have first := (ends c rfl).2.1
    rw [places.eq_2]
    exact fun _ same => first (List.cons.inj same).1

theorem exponentPart_of_ends (ends : Ends rest) : exponentPart rest = ([], rest) := by
  cases rest with
  | nil => rfl
  | cons c rest =>
    obtain ⟨-, -, small, capital⟩ := ends c rfl
    have unmarked : ¬ (decide (c = 'e') || decide (c = 'E')) = true := by simp [small, capital]
    rw [exponentPart.eq_def]
    exact if_neg unmarked

theorem wholeDigits?_decimal (n : Nat) (ends : Ends rest) :
    wholeDigits? (Numeral.decimal n ++ rest) = some (Numeral.decimal n, rest) := by
  by_cases zero : n = 0
  · rw [zero, Numeral.decimal_zero]
    rfl
  · obtain ⟨d, ds, text, small, nonzero⟩ := Numeral.decimal_cons n
    have taken : digits (Numeral.decimal n ++ rest) = (Numeral.decimal n, rest) := by
      have all : ∀ c ∈ Numeral.decimal n, c.isDigit = true := fun _ => Numeral.isDigit_of_mem_decimal
      have stop : rest.takeWhile Char.isDigit = [] ∧ rest.dropWhile Char.isDigit = rest := by
        cases rest with
        | nil => exact ⟨rfl, rfl⟩
        | cons c rest =>
          rw [List.takeWhile_cons, List.dropWhile_cons, (ends c rfl).1]
          exact ⟨rfl, rfl⟩
      rw [digits, List.takeWhile_append_of_pos all, List.dropWhile_append_of_pos all, stop.1, stop.2, List.append_nil]
    rw [text, List.cons_append] at taken ⊢
    have proper : Numeral.digitChar d ≠ '0' := fun same =>
      nonzero zero ((Numeral.digitChar_eq_zero_iff (by omega)).mp same)
    rw [wholeDigits?, if_neg proper, if_pos (Numeral.isDigit_digitChar small), taken]

theorem number_signed {i : Int} (writable : Integer.isWritable i = true) (position : Nat) (ends : Ends rest) :
    Gives (number ⟨position, Numeral.signed i ++ rest⟩) (.int i) rest := by
  have value (n : Nat) : Double.digitsValue (Numeral.decimal n) = n :=
    Numeral.foldl_decimal (fun d small => by rw [Numeral.toNat_digitChar small, Nat.add_sub_cancel_left]) n
  -- The sign is read apart from the digits, so the two signs differ in the first character only.
  cases i with
  | ofNat n =>
    have unsigned : ((Numeral.decimal n ++ rest).head? == some '-') = false := by
      obtain ⟨d, ds, text, small, -⟩ := Numeral.decimal_cons n
      rw [text]
      interval_cases d <;> rfl
    have short : ¬ Integer.maxDigits < (Numeral.decimal n).length := Nat.not_lt.mpr (of_decide_eq_true writable)
    refine ⟨position + (Numeral.decimal n).length, ?_⟩
    simp only [number, Numeral.signed, unsigned, Bool.false_eq_true, if_false, wholeDigits?_decimal n ends,
      places_of_ends ends, exponentPart_of_ends ends, List.isEmpty_nil, Bool.and_self, if_true, if_neg short, value,
      List.nil_append, List.append_nil]
    rfl
  | negSucc n =>
    have short : ¬ Integer.maxDigits < (Numeral.decimal (n + 1)).length := Nat.not_lt.mpr (of_decide_eq_true writable)
    refine ⟨position + (Numeral.signed (.negSucc n)).length, ?_⟩
    simp only [number, Numeral.signed, List.cons_append, List.head?_cons, beq_self_eq_true, if_true, List.drop_one,
      List.tail_cons, wholeDigits?_decimal (n + 1) ends, places_of_ends ends, exponentPart_of_ends ends,
      List.isEmpty_nil, Bool.and_self, if_neg short, value, List.nil_append, List.append_nil]
    rfl

/-- The words that stand for a value begin otherwise than a numeral. -/
theorem atom_signed {i : Int} (writable : Integer.isWritable i = true) (position : Nat) (ends : Ends rest) :
    Gives (atom ⟨position, Numeral.signed i ++ rest⟩) (.int i) rest := by
  have wordless : (words.find? fun w => w.1.isPrefixOf (Numeral.signed i ++ rest)) = none := by
    cases i with
    | ofNat n =>
      obtain ⟨d, ds, text, small, -⟩ := Numeral.decimal_cons n
      rw [Numeral.signed, text]
      interval_cases d <;> rfl
    | negSucc n =>
      obtain ⟨d, ds, text, small, -⟩ := Numeral.decimal_cons (n + 1)
      rw [Numeral.signed, text]
      interval_cases d <;> rfl
  rw [atom]
  simp only [wordless]
  exact number_signed writable position ends

end

/-! ## Values -/

/-- A numeral ends before blanks, a comma or the end of a level. -/
theorem ends_append {blanks : List Char} (airy : ∀ c ∈ blanks, c = ' ' ∨ c = '\n') {rest : List Char}
    (ends : Ends rest) : Ends (blanks ++ rest) := by
  cases blanks with
  | nil => exact ends
  | cons c cs =>
    intro d member
    cases member
    rcases airy c List.mem_cons_self with rfl | rfl <;> decide

theorem ends_cons {c : Char} (rest : List Char) (other : c.isDigit = false ∧ c ≠ '.' ∧ c ≠ 'e' ∧ c ≠ 'E') :
    Ends (c :: rest) := by
  intro d member
  cases member
  exact other

/-- A text begins with a character that is no blank and closes no list. -/
def Starts (cs : List Char) : Prop :=
  ∃ c rest, cs = c :: rest ∧ isBlank c = false ∧ c ≠ ']'

theorem starts_signed (i : Int) : ∃ c rest, Numeral.signed i = c :: rest ∧ (c = '-' ∨ c.isDigit = true) := by
  cases i with
  | ofNat n =>
    obtain ⟨d, ds, text, small, -⟩ := Numeral.decimal_cons n
    exact ⟨_, _, text, .inr (Numeral.isDigit_digitChar small)⟩
  | negSucc n => exact ⟨'-', _, rfl, .inl rfl⟩

section

variable {layout : Layout}

theorem starts_write {n : Nat} {v : Value} (simple : Simple n v) (layout : Layout) (depth : Nat) :
    Starts (write layout depth v) := by
  cases simple with
  | null =>
    rw [write]
    exact ⟨_, _, rfl, rfl, by decide⟩
  | bool b =>
    cases b <;>
    · rw [write]
      exact ⟨_, _, rfl, rfl, by decide⟩
  | @int _ i writable =>
    rw [write]
    obtain ⟨c, rest, text, first⟩ := starts_signed i
    refine ⟨c, rest, text, ?_, ?_⟩
    · rw [Bool.eq_false_iff]
      intro blank
      simp only [isBlank, Bool.or_eq_true, beq_iff_eq] at blank
      rcases blank with ((rfl | rfl) | rfl) | rfl <;> exact absurd first (by decide)
    · rintro rfl
      exact absurd first (by decide)
  | text plain =>
    rw [write]
    exact ⟨_, _, rfl, rfl, by decide⟩
  | @list _ vs each =>
    cases vs <;>
    · rw [write]
      exact ⟨_, _, rfl, rfl, by decide⟩
  | @object _ fields names distinct each =>
    cases fields <;>
    · rw [write]
      exact ⟨_, _, rfl, rfl, by decide⟩

/-- A value is read from its text, before a rest in which a numeral ends. -/
def ReadsBack (layout : Layout) (levels : Nat) (v : Value) : Prop :=
  ∀ depth fuel position rest, (write layout depth v).length ≤ fuel → Ends rest →
    Gives (value levels fuel ⟨position, write layout depth v ++ rest⟩) v rest

/-- The text of a value is not empty, so that a reader makes a step. -/
theorem readsBack_of_succ {n levels : Nat} {v : Value} (simple : Simple n v)
    (reads : ∀ depth fuel position rest, (write layout depth v).length ≤ fuel + 1 → Ends rest →
      Gives (value levels (fuel + 1) ⟨position, write layout depth v ++ rest⟩) v rest) : ReadsBack layout levels v := by
  intro depth fuel position rest enough ends
  obtain ⟨fuel, rfl⟩ : ∃ k, fuel = k + 1 := by
    obtain ⟨c, tail, text, -⟩ := starts_write simple layout depth
    rw [text, List.length_cons] at enough
    exact ⟨fuel - 1, by omega⟩
  exact reads depth fuel position rest enough ends

/-- Behind an item or a field stands what ends a numeral. -/
theorem ends_writeItems (vs : List Value) (depth : Nat) {behind : List Char} (ends : Ends behind) :
    Ends (writeItems layout depth vs ++ behind) := by
  cases vs with
  | nil => exact ends
  | cons v rest =>
    rw [writeItems]
    exact ends_cons _ (by decide)

theorem ends_writeFields (fields : List (Text × Value)) (depth : Nat) {behind : List Char} (ends : Ends behind) :
    Ends (writeFields layout depth fields ++ behind) := by
  cases fields with
  | nil => exact ends
  | cons f rest =>
    rw [writeFields]
    exact ends_cons _ (by decide)

/-- Behind a comma and what follows it the next item or field begins. -/
theorem skip_comma (airy : layout.Airy) (depth position : Nat) {c : Char} (other : isBlank c = false)
    (rest : List Char) :
    (Place.skip ⟨position, ',' :: (layout.afterComma ++ (layout.separator depth ++ c :: rest))⟩ 1).skipBlanks =
      ⟨position + 1 + (layout.afterComma ++ layout.separator depth).length, c :: rest⟩ := by
  have blanks := isBlank_of_airy (List.forall_mem_append.mpr ⟨airy.comma, airy.separator depth⟩)
  rw [← skipBlanks_append blanks other (position + 1) rest, List.append_assoc]
  rfl

theorem items_write (airy : layout.Airy) {n levels depth : Nat} {v : Value} {vs : List Value}
    (simple : ∀ w ∈ v :: vs, Simple n w) (reads : ∀ w ∈ v :: vs, ReadsBack layout levels w) {closing : List Char}
    (closes : ∀ c ∈ closing, c = ' ' ∨ c = '\n') (done : List Value) {fuel : Nat} (position : Nat) (rest : List Char)
    (enough : (write layout depth v).length + (writeItems layout depth vs).length < fuel) :
    Gives (items levels fuel done
      ⟨position, write layout depth v ++ (writeItems layout depth vs ++ (closing ++ ']' :: rest))⟩)
      (.list (done.reverse ++ v :: vs)) rest := by
  have ends : Ends (closing ++ ']' :: rest) := ends_append closes (ends_cons rest (by decide))
  -- By induction on the items behind the first. An item is at least one character, so that every step of the reader
  -- leaves enough of them.
  induction vs generalizing v done fuel position with
  | nil =>
    obtain ⟨fuel, rfl⟩ : ∃ k, fuel = k + 1 := ⟨fuel - 1, by omega⟩
    obtain ⟨behind, read⟩ := reads v List.mem_cons_self depth fuel position _ (by omega) ends
    refine ⟨behind + closing.length + 1, ?_⟩
    rw [writeItems, List.nil_append, items, read]
    simp only [@skipBlanks_append _ (isBlank_of_airy closes) ']' rfl]
    rw [List.reverse_cons]
    rfl
  | cons w ws ih =>
    obtain ⟨fuel, rfl⟩ : ∃ k, fuel = k + 1 := ⟨fuel - 1, by omega⟩
    have others : ∀ u ∈ w :: ws, u ∈ v :: w :: ws := fun u => List.mem_cons_of_mem v
    rw [writeItems, List.length_cons, List.length_append, List.length_append] at enough
    obtain ⟨behind, read⟩ := reads v List.mem_cons_self depth fuel position _ (by omega)
      (ends_writeItems (w :: ws) depth ends)
    obtain ⟨c, cs, text, other, -⟩ := starts_write (simple w (others w List.mem_cons_self)) layout depth
    have fewer : (write layout depth w).length + (writeItems layout depth ws).length < fuel := by omega
    obtain ⟨last, later⟩ := ih (fun u member => simple u (others u member)) (fun u member => reads u (others u member))
      (v :: done) (behind + 1 + (layout.afterComma ++ layout.separator depth).length) fewer
    have next : writeItems layout depth (w :: ws) ++ (closing ++ ']' :: rest) =
        ',' :: (layout.afterComma ++ (layout.separator depth ++
          c :: (cs ++ (writeItems layout depth ws ++ (closing ++ ']' :: rest))))) := by
      simp only [writeItems, text, List.cons_append, List.append_assoc]
    refine ⟨last, ?_⟩
    rw [List.reverse_cons, List.append_assoc, text] at later
    rw [items, read, next]
    simp only [skipBlanks_cons (rfl : isBlank ',' = false), skip_comma airy depth behind other]
    exact later

/-- A field is read up to the end of the object or the comma that stands behind its value. -/
theorem field_write {n levels depth fuel : Nat} {f : Text × Value} (name : IsPlainText f.1) (simple : Simple n f.2)
    (reads : ReadsBack layout levels f.2) (done : List (Text × Value)) (position : Nat) {behind : List Char}
    (ends : Ends behind) (enough : (write layout depth f.2).length ≤ fuel) :
    ∃ after,
      (∀ p rest, Place.skipBlanks ⟨after, behind⟩ = ⟨p, '\x7d' :: rest⟩ →
        fields levels (fuel + 1) done ⟨position, quoted f.1 ++ ':' :: ' ' :: (write layout depth f.2 ++ behind)⟩ =
          .ok (Value.ofFields (f :: done).reverse, ⟨p + 1, rest⟩)) ∧
      ∀ rest, behind = ',' :: rest →
        fields levels (fuel + 1) done ⟨position, quoted f.1 ++ ':' :: ' ' :: (write layout depth f.2 ++ behind)⟩ =
          fields levels fuel (f :: done) (Place.skip ⟨after, ',' :: rest⟩ 1).skipBlanks := by
  obtain ⟨k, v⟩ := f
  obtain ⟨cs, rfl, plain⟩ := name
  obtain ⟨c, tail, text, other, -⟩ := starts_write simple layout depth
  obtain ⟨colon, named⟩ := string_plain plain (position + 1) (':' :: ' ' :: (write layout depth v ++ behind))
  obtain ⟨after, read⟩ := reads depth fuel (colon + 1 + 1) behind enough ends
  have opened : Place.skip ⟨position, '\x22' :: (cs ++ ['\x22']) ++ ':' :: ' ' :: (write layout depth v ++ behind)⟩ 1 =
      ⟨position + 1, cs ++ '\x22' :: ':' :: ' ' :: (write layout depth v ++ behind)⟩ := by
    rw [List.cons_append, List.append_assoc]
    rfl
  have skipped : (Place.skip ⟨colon, ':' :: ' ' :: (write layout depth v ++ behind)⟩ 1).skipBlanks =
      ⟨colon + 1 + 1, write layout depth v ++ behind⟩ := by
    rw [text]
    exact @skipBlanks_append [' '] (List.forall_mem_singleton.mpr rfl) c other (colon + 1) (tail ++ behind)
  have quote : (Place.mk position
      ('\x22' :: (cs ++ ['\x22']) ++ ':' :: ' ' :: (write layout depth v ++ behind))).rest.head? = some '\x22' := rfl
  dsimp only at read ⊢
  refine ⟨after, fun p rest stands => ?_, fun rest comma => ?_⟩
  · rw [quoted_ofChars plain, fields, if_pos quote, opened, named]
    simp only [skipBlanks_cons (rfl : isBlank ':' = false), List.head?_cons, if_true, skipped, read, stands]
    rfl
  · have stands : Place.skipBlanks ⟨after, behind⟩ = ⟨after, ',' :: rest⟩ := by
      rw [comma]
      exact skipBlanks_cons rfl after rest
    rw [quoted_ofChars plain, fields, if_pos quote, opened, named]
    simp only [skipBlanks_cons (rfl : isBlank ':' = false), List.head?_cons, if_true, skipped, read, stands]

theorem fields_write (airy : layout.Airy) {n levels depth : Nat} {f : Text × Value} {fs : List (Text × Value)}
    (names : ∀ g ∈ f :: fs, IsPlainText g.1) (simple : ∀ g ∈ f :: fs, Simple n g.2)
    (reads : ∀ g ∈ f :: fs, ReadsBack layout levels g.2) {closing : List Char}
    (closes : ∀ c ∈ closing, c = ' ' ∨ c = '\n') (done : List (Text × Value)) {fuel : Nat} (position : Nat)
    (rest : List Char)
    (enough : (write layout depth f.2).length + (writeFields layout depth fs).length < fuel) :
    Gives (fields levels fuel done
      ⟨position, quoted f.1 ++ ':' :: ' ' :: (write layout depth f.2 ++
        (writeFields layout depth fs ++ (closing ++ '\x7d' :: rest)))⟩)
      (Value.ofFields (done.reverse ++ f :: fs)) rest := by
  have ends : Ends (closing ++ '\x7d' :: rest) := ends_append closes (ends_cons rest (by decide))
  induction fs generalizing f done fuel position with
  | nil =>
    obtain ⟨fuel, rfl⟩ : ∃ k, fuel = k + 1 := ⟨fuel - 1, by omega⟩
    have small : (write layout depth f.2).length ≤ fuel := by omega
    obtain ⟨after, last, -⟩ := field_write (names f List.mem_cons_self) (simple f List.mem_cons_self)
      (reads f List.mem_cons_self) done position ends small
    have closed := last _ _ (skipBlanks_append (isBlank_of_airy closes) rfl after rest)
    refine ⟨after + closing.length + 1, ?_⟩
    rw [writeFields, List.nil_append, closed, List.reverse_cons]
  | cons g gs ih =>
    obtain ⟨fuel, rfl⟩ : ∃ k, fuel = k + 1 := ⟨fuel - 1, by omega⟩
    have others : ∀ h ∈ g :: gs, h ∈ f :: g :: gs := fun h => List.mem_cons_of_mem f
    rw [writeFields, List.length_cons, List.length_append, List.length_append] at enough
    have small : (write layout depth f.2).length ≤ fuel := by omega
    have fewer : (write layout depth g.2).length + (writeFields layout depth gs).length < fuel := by omega
    obtain ⟨after, -, more⟩ := field_write (names f List.mem_cons_self) (simple f List.mem_cons_self)
      (reads f List.mem_cons_self) done position (ends_writeFields (g :: gs) depth ends) small
    obtain ⟨last, later⟩ := ih (fun h member => names h (others h member)) (fun h member => simple h (others h member))
      (fun h member => reads h (others h member)) (f :: done)
      (after + 1 + (layout.afterComma ++ layout.separator depth).length) fewer
    obtain ⟨cs, name, plain⟩ := names g (others g List.mem_cons_self)
    rw [List.reverse_cons, List.append_assoc, name, quoted_ofChars plain] at later
    have next : writeFields layout depth (g :: gs) ++ (closing ++ '\x7d' :: rest) =
        ',' :: (layout.afterComma ++ (layout.separator depth ++ '\x22' :: (cs ++ '\x22' :: ':' :: ' ' ::
          (write layout depth g.2 ++ (writeFields layout depth gs ++ (closing ++ '\x7d' :: rest)))))) := by
      simp only [writeFields, name, quoted_ofChars plain, List.cons_append, List.append_assoc, List.nil_append]
    refine ⟨last, ?_⟩
    rw [more _ next, skip_comma airy depth after rfl]
    rw [List.cons_append, List.append_assoc] at later
    exact later

theorem value_atom {c : Char} (quote : c ≠ '\x22') (bracket : c ≠ '[') (brace : c ≠ '\x7b') (levels fuel position : Nat)
    (rest : List Char) : value levels (fuel + 1) ⟨position, c :: rest⟩ = atom ⟨position, c :: rest⟩ := by
  simp only [value, if_neg quote, if_neg bracket, if_neg brace]

theorem value_items {blanks : List Char} (blank : ∀ b ∈ blanks, isBlank b = true) {cs : List Char} (starts : Starts cs)
    (levels fuel position : Nat) (rest : List Char) :
    value (levels + 1) (fuel + 1) ⟨position, '[' :: (blanks ++ (cs ++ rest))⟩ =
      items levels fuel [] ⟨position + 1 + blanks.length, cs ++ rest⟩ := by
  obtain ⟨c, tail, rfl, other, proper⟩ := starts
  have skipped : (Place.skip ⟨position, '[' :: (blanks ++ (c :: tail ++ rest))⟩ 1).skipBlanks =
      ⟨position + 1 + blanks.length, c :: (tail ++ rest)⟩ := skipBlanks_append blank other (position + 1) (tail ++ rest)
  have unclosed : ¬ (Place.mk (position + 1 + blanks.length) (c :: (tail ++ rest))).rest.head? = some ']' :=
    fun same => proper (Option.some.inj same)
  rw [value]
  dsimp only
  rw [if_neg (by decide), if_pos rfl, descend, if_neg (Nat.succ_ne_zero levels)]
  dsimp only [bind, Except.bind, Nat.add_sub_cancel]
  rw [skipped, if_neg unclosed]
  rfl

theorem value_fields {blanks : List Char} (blank : ∀ b ∈ blanks, isBlank b = true) (levels fuel position : Nat)
    (rest : List Char) :
    value (levels + 1) (fuel + 1) ⟨position, '\x7b' :: (blanks ++ '\x22' :: rest)⟩ =
      fields levels fuel [] ⟨position + 1 + blanks.length, '\x22' :: rest⟩ := by
  have skipped : (Place.skip ⟨position, '\x7b' :: (blanks ++ '\x22' :: rest)⟩ 1).skipBlanks =
      ⟨position + 1 + blanks.length, '\x22' :: rest⟩ := skipBlanks_append blank rfl (position + 1) rest
  have unclosed : ¬ (Place.mk (position + 1 + blanks.length) ('\x22' :: rest)).rest.head? = some '\x7d' := by
    rw [List.head?_cons]
    decide
  rw [value]
  dsimp only
  rw [if_neg (by decide), if_neg (by decide), if_pos rfl, descend, if_neg (Nat.succ_ne_zero levels)]
  dsimp only [bind, Except.bind, Nat.add_sub_cancel]
  rw [skipped, if_neg unclosed]
  rfl

theorem list_write (airy : layout.Airy) {n levels : Nat} {vs : List Value} (simple : ∀ v ∈ vs, Simple n v)
    (reads : ∀ v ∈ vs, ReadsBack layout levels v) (depth fuel position : Nat) (rest : List Char)
    (enough : (write layout depth (.list vs)).length ≤ fuel + 1) :
    Gives (value (levels + 1) (fuel + 1) ⟨position, write layout depth (.list vs) ++ rest⟩) (.list vs) rest := by
  cases vs with
  | nil =>
    rw [write]
    exact ⟨position + 2, rfl⟩
  | cons v vs =>
    simp only [write, List.length_cons, List.length_append, List.length_nil] at enough
    have fewer : (write layout (depth + 1) v).length + (writeItems layout (depth + 1) vs).length < fuel := by omega
    have text : write layout depth (.list (v :: vs)) ++ rest = '[' :: (layout.separator (depth + 1) ++
        (write layout (depth + 1) v ++
          (writeItems layout (depth + 1) vs ++ (layout.separator depth ++ ']' :: rest)))) := by
      simp only [write, List.cons_append, List.append_assoc, List.nil_append]
    rw [text, value_items (isBlank_of_airy (airy.separator (depth + 1)))
      (starts_write (simple v List.mem_cons_self) layout (depth + 1))]
    exact items_write airy simple reads (airy.separator depth) [] _ rest fewer

theorem object_write (airy : layout.Airy) {n levels : Nat} {fields : List (Text × Value)}
    (names : ∀ f ∈ fields, IsPlainText f.1) (distinct : (fields.map Prod.fst).Nodup)
    (simple : ∀ f ∈ fields, Simple n f.2) (reads : ∀ f ∈ fields, ReadsBack layout levels f.2)
    (depth fuel position : Nat) (rest : List Char) (enough : (write layout depth (.object fields)).length ≤ fuel + 1) :
    Gives (value (levels + 1) (fuel + 1) ⟨position, write layout depth (.object fields) ++ rest⟩) (.object fields)
      rest := by
  cases fields with
  | nil =>
    rw [write]
    exact ⟨position + 2, rfl⟩
  | cons f fs =>
    obtain ⟨cs, name, plain⟩ := names f List.mem_cons_self
    simp only [write, List.length_cons, List.length_append, List.length_nil] at enough
    have fewer : (write layout (depth + 1) f.2).length + (writeFields layout (depth + 1) fs).length < fuel := by omega
    have text : write layout depth (.object (f :: fs)) ++ rest = '\x7b' :: (layout.separator (depth + 1) ++
        (quoted f.1 ++ ':' :: ' ' :: (write layout (depth + 1) f.2 ++
          (writeFields layout (depth + 1) fs ++ (layout.separator depth ++ '\x7d' :: rest))))) := by
      simp only [write, List.cons_append, List.append_assoc, List.nil_append]
    have read := fields_write airy names simple reads (airy.separator depth) []
      (position + 1 + (layout.separator (depth + 1)).length) rest fewer
    rw [name, quoted_ofChars plain, List.cons_append] at read text
    rw [text, value_fields (isBlank_of_airy (airy.separator (depth + 1))), ← Value.ofFields_of_nodup distinct]
    exact read

theorem value_write (airy : layout.Airy) {n : Nat} {v : Value} (simple : Simple n v) {levels : Nat} (deep : n ≤ levels) :
    ReadsBack layout levels v := by
  refine readsBack_of_succ simple fun depth fuel position rest enough ends => ?_
  -- By induction on the value: its parts lie one level further in, at a greater depth and before other rests.
  induction simple generalizing levels depth fuel position rest with
  | null =>
    rw [write]
    exact ⟨position + 4, rfl⟩
  | bool b =>
    cases b with
    | false =>
      rw [write]
      exact ⟨position + 5, rfl⟩
    | true =>
      rw [write]
      exact ⟨position + 4, rfl⟩
  | @int n i writable =>
    rw [write]
    have read := atom_signed writable position ends
    obtain ⟨c, tail, text, first⟩ := starts_signed i
    rw [text] at read ⊢
    have apart {d : Char} (other : ¬ (d = '-' ∨ d.isDigit = true)) : c ≠ d := by
      rintro rfl
      exact other first
    rw [List.cons_append, value_atom (apart (by decide)) (apart (by decide)) (apart (by decide))]
    exact read
  | @text n t plain =>
    obtain ⟨cs, rfl, plain⟩ := plain
    obtain ⟨behind, read⟩ := string_plain plain (position + 1) rest
    rw [write, quoted_ofChars plain]
    refine ⟨behind, ?_⟩
    rw [List.cons_append, List.append_assoc, value]
    dsimp only
    rw [if_pos rfl]
    exact congrArg (Except.map _) read
  | @list n vs each ih =>
    obtain ⟨levels, rfl⟩ : ∃ k, levels = k + 1 := ⟨levels - 1, by omega⟩
    have reads : ∀ v ∈ vs, ReadsBack layout levels v := fun v member =>
      readsBack_of_succ (each v member) (ih v member (by omega))
    exact list_write airy each reads depth fuel position rest enough
  | @object n fields names distinct each ih =>
    obtain ⟨levels, rfl⟩ : ∃ k, levels = k + 1 := ⟨levels - 1, by omega⟩
    have reads : ∀ f ∈ fields, ReadsBack layout levels f.2 := fun f member =>
      readsBack_of_succ (each f member) (ih f member (by omega))
    exact object_write airy names distinct each reads depth fuel position rest enough

end

/-! ## Whole texts -/

/-- A simple value is read from its text, with blanks behind it. -/
theorem parse_write {layout : Layout} (airy : layout.Airy) {v : Value} (simple : Simple maxLevels v) {blanks : List Char}
    (behind : ∀ c ∈ blanks, c = ' ' ∨ c = '\n') : parse (write layout 0 v ++ blanks) = .ok v := by
  obtain ⟨c, tail, text, other, -⟩ := starts_write simple layout 0
  have mark : ¬ (write layout 0 v ++ blanks).head? = some (Char.ofNat 0xfeff) := by
    have written := isWritten_of_mem_write airy simple 0 c (text ▸ List.mem_cons_self)
    rw [text, List.cons_append, List.head?_cons, Option.some.injEq]
    rintro rfl
    exact absurd written (by decide)
  have ends : Ends blanks := by
    have whole := @ends_append _ behind [] nofun
    rwa [List.append_nil] at whole
  have start : Place.skipBlanks ⟨0, write layout 0 v ++ blanks⟩ = ⟨0, write layout 0 v ++ blanks⟩ := by
    rw [text]
    exact skipBlanks_cons other 0 (tail ++ blanks)
  have enough : (write layout 0 v).length ≤ 2 * (write layout 0 v ++ blanks).length + 2 := by
    rw [List.length_append]
    omega
  obtain ⟨after, read⟩ := value_write airy simple (Nat.le_refl maxLevels) 0 _ 0 blanks enough ends
  have whole : document (write layout 0 v ++ blanks) = .ok v := by
    rw [document, if_neg mark, start, read]
    dsimp only
    rw [skipBlanks_blanks (isBlank_of_airy behind), List.isEmpty_nil, if_pos rfl]
  rw [parse, whole]
  rfl

theorem parse_compact {v : Value} (simple : Simple maxLevels v) : parse (compact v) = .ok v := by
  have whole := @parse_write _ Layout.airy_line _ simple [] nofun
  rwa [List.append_nil] at whole

/-- A simple value is read from its text that is spread over lines, with an end of line behind it. -/
theorem parse_pretty {v : Value} (simple : Simple maxLevels v) : parse (pretty v ++ ['\n']) = .ok v :=
  parse_write Layout.airy_spread simple (List.forall_mem_singleton.mpr (.inr rfl))

end SeedStream.Json
