import Mathlib.Data.Bool.AllAny
import SeedStream.Json.Printer
import SeedStream.Proofs.Digits

/-!
# Simple values as JSON

A simple value has no doubles and no timestamps, its texts need no escapes and the names of an object in it differ.
All characters of its JSON text are of ASCII, and none is a carriage return (`isWritten_of_mem_write`).
-/

namespace SeedStream.Json

/-! ## Simple values -/

/-- A character that is written as it is. -/
def IsPlain (c : Char) : Prop :=
  (32 ≤ c.toNat ∧ c.toNat < 127) ∧ c ≠ '\x22' ∧ c ≠ '\x5c'

instance : DecidablePred IsPlain :=
  fun c => inferInstanceAs (Decidable ((32 ≤ c.toNat ∧ c.toNat < 127) ∧ c ≠ '\x22' ∧ c ≠ '\x5c'))

/-- A text that is written as it is. -/
def IsPlainText (t : Text) : Prop :=
  ∃ cs, t = Text.ofChars cs ∧ ∀ c ∈ cs, IsPlain c

theorem isPlainText_ofString {s : String} (plain : (s.toList.all fun c => IsPlain c) = true) :
    IsPlainText (Text.ofString s) :=
  ⟨s.toList, rfl, List.all_iff_forall_prop.mp plain⟩

/-- A value that is read as it was written, with so many lists and objects within one another at most. -/
inductive Simple : Nat → Value → Prop
  | null {n : Nat} : Simple n .null
  | bool {n : Nat} (b : Bool) : Simple n (.bool b)
  | int {n : Nat} {i : Int} (writable : Integer.isWritable i = true) : Simple n (.int i)
  | text {n : Nat} {t : Text} (plain : IsPlainText t) : Simple n (.text t)
  | list {n : Nat} {vs : List Value} (each : ∀ v ∈ vs, Simple n v) : Simple (n + 1) (.list vs)
  | object {n : Nat} {fields : List (Text × Value)} (names : ∀ f ∈ fields, IsPlainText f.1)
      (distinct : (fields.map (·.1)).Nodup) (each : ∀ f ∈ fields, Simple n f.2) : Simple (n + 1) (.object fields)

/-- The names of an object may be given as strings, whose characters can be looked through. -/
theorem Simple.object_of_strings {n : Nat} {fields : List (Text × Value)} (names : List String)
    (named : fields.map (·.1) = names.map Text.ofString)
    (plain : (names.all fun s => s.toList.all fun c => IsPlain c) = true) (distinct : (names.map Text.ofString).Nodup)
    (each : ∀ f ∈ fields, Simple n f.2) : Simple (n + 1) (.object fields) := by
  refine .object (fun f member => ?_) (named ▸ distinct) each
  have listed : f.1 ∈ names.map Text.ofString := named ▸ List.mem_map_of_mem member
  obtain ⟨s, inside, same⟩ := List.mem_map.mp listed
  rw [← same]
  exact isPlainText_ofString (List.all_eq_true.mp plain s inside)

/-- The parts of a value are set apart by spaces and line feeds. -/
structure Layout.Airy (layout : Layout) : Prop where
  separator : ∀ depth, ∀ c ∈ layout.separator depth, c = ' ' ∨ c = '\n'
  comma : ∀ c ∈ layout.afterComma, c = ' ' ∨ c = '\n'

theorem Layout.airy_line : Layout.line.Airy :=
  ⟨fun _ => nofun, fun _ member => .inl (List.mem_singleton.mp member)⟩

theorem Layout.airy_spread : Layout.spread.Airy := by
  refine ⟨fun depth c member => ?_, nofun⟩
  rcases List.mem_cons.mp member with rfl | blank
  · exact .inr rfl
  · exact .inl (List.eq_of_mem_replicate blank)

theorem isBlank_of_airy {cs : List Char} (airy : ∀ c ∈ cs, c = ' ' ∨ c = '\n') : ∀ c ∈ cs, isBlank c = true := by
  intro c member
  rcases airy c member with rfl | rfl <;> rfl

theorem quoted_ofChars {cs : List Char} (plain : ∀ c ∈ cs, IsPlain c) :
    quoted (Text.ofChars cs) = '\x22' :: (cs ++ ['\x22']) := by
  have inside : (Text.ofChars cs).flatMap escape = cs := by
    induction cs with
    | nil => rfl
    | cons c rest ih =>
      obtain ⟨⟨range, quote, backslash⟩, others⟩ := List.forall_mem_cons.mp plain
      have same : escapeChar c = [c] := by
        have apart {d : Char} (outside : d.toNat < 32) : c ≠ d := by
          rintro rfl
          omega
        rw [escapeChar, if_neg quote, if_neg backslash, if_neg (apart (by decide)), if_neg (apart (by decide)),
          if_neg (apart (by decide)), if_neg (apart (by decide)), if_neg (apart (by decide)),
          if_pos (by simpa using range)]
      have head : Text.ofChars (c :: rest) = .char c :: Text.ofChars rest := rfl
      rw [head, List.flatMap_cons, ih others, escape, same]
      rfl
  rw [quoted, inside]

/-! ## Characters of a text -/

/-- What the characters of written values have in common: one byte holds them, and none is a carriage return. -/
def IsWritten (c : Char) : Prop :=
  c.toNat < 0x80 ∧ c ≠ '\r'

instance : DecidablePred IsWritten :=
  fun c => inferInstanceAs (Decidable (c.toNat < 0x80 ∧ c ≠ '\r'))

theorem isWritten_of_plain {c : Char} (plain : IsPlain c) : IsWritten c := by
  refine ⟨by have := plain.1; omega, ?_⟩
  rintro rfl
  exact absurd plain.1.1 (by decide)

theorem isWritten_of_airy {cs : List Char} (airy : ∀ c ∈ cs, c = ' ' ∨ c = '\n') : ∀ c ∈ cs, IsWritten c := by
  intro c member
  rcases airy c member with rfl | rfl <;> exact by decide

theorem isWritten_of_mem_signed (i : Int) : ∀ c ∈ Numeral.signed i, IsWritten c := by
  have digit (n : Nat) : ∀ c ∈ Numeral.decimal n, IsWritten c := by
    intro c member
    have digit := Numeral.isDigit_of_mem_decimal member
    have range := Integer.range_of_isAlphanum (by rw [Char.isAlphanum, digit, Bool.or_true] : c.isAlphanum = true)
    refine ⟨by omega, ?_⟩
    rintro rfl
    cases digit
  cases i with
  | ofNat n => exact digit n
  | negSucc n => exact List.forall_mem_cons.mpr ⟨by decide, digit (n + 1)⟩

theorem isWritten_of_mem_quoted {t : Text} (plain : IsPlainText t) : ∀ c ∈ quoted t, IsWritten c := by
  obtain ⟨cs, rfl, plain⟩ := plain
  rw [quoted_ofChars plain]
  refine List.forall_mem_cons.mpr ⟨by decide, List.forall_mem_append.mpr ⟨fun c member => ?_, ?_⟩⟩
  · exact isWritten_of_plain (plain c member)
  · exact List.forall_mem_singleton.mpr (by decide)

section

variable {layout : Layout}

theorem isWritten_of_mem_writeItems (airy : layout.Airy) {depth : Nat} {vs : List Value}
    (each : ∀ v ∈ vs, ∀ c ∈ write layout depth v, IsWritten c) : ∀ c ∈ writeItems layout depth vs, IsWritten c := by
  induction vs with
  | nil => nofun
  | cons v rest ih =>
    obtain ⟨first, others⟩ := List.forall_mem_cons.mp each
    simp only [writeItems, List.forall_mem_cons, List.forall_mem_append]
    exact ⟨by decide, ⟨⟨isWritten_of_airy airy.comma, isWritten_of_airy (airy.separator depth)⟩, first⟩,
      ih others⟩

theorem isWritten_of_mem_writeFields (airy : layout.Airy) {depth : Nat} {fields : List (Text × Value)}
    (names : ∀ f ∈ fields, IsPlainText f.1) (each : ∀ f ∈ fields, ∀ c ∈ write layout depth f.2, IsWritten c) :
    ∀ c ∈ writeFields layout depth fields, IsWritten c := by
  induction fields with
  | nil => nofun
  | cons f rest ih =>
    obtain ⟨name, names⟩ := List.forall_mem_cons.mp names
    obtain ⟨first, others⟩ := List.forall_mem_cons.mp each
    simp only [writeFields, List.forall_mem_cons, List.forall_mem_append]
    exact ⟨by decide, ⟨⟨⟨⟨isWritten_of_airy airy.comma, isWritten_of_airy (airy.separator depth)⟩,
      isWritten_of_mem_quoted name⟩, by decide, by decide, nofun⟩, first⟩, ih names others⟩

theorem isWritten_of_mem_write (airy : layout.Airy) {n : Nat} {v : Value} (simple : Simple n v) (depth : Nat) :
    ∀ c ∈ write layout depth v, IsWritten c := by
  have separator (depth : Nat) : ∀ c ∈ layout.separator depth, IsWritten c := isWritten_of_airy (airy.separator depth)
  induction simple generalizing depth with
  | null =>
    rw [write]
    exact List.all_iff_forall_prop.mp (by decide)
  | bool b =>
    cases b <;>
    · rw [write]
      exact List.all_iff_forall_prop.mp (by decide)
  | @int n i writable =>
    rw [write]
    exact isWritten_of_mem_signed i
  | text plain =>
    rw [write]
    exact isWritten_of_mem_quoted plain
  | @list n vs each ih =>
    cases vs with
    | nil =>
      rw [write]
      exact List.all_iff_forall_prop.mp (by decide)
    | cons v rest =>
      obtain ⟨first, others⟩ := List.forall_mem_cons.mp ih
      simp only [write, List.forall_mem_cons, List.forall_mem_append]
      exact ⟨by decide, ⟨⟨⟨separator _, first _⟩, isWritten_of_mem_writeItems airy fun v member =>
        others v member _⟩, separator _⟩, by decide, nofun⟩
  | @object n fields names distinct each ih =>
    cases fields with
    | nil =>
      rw [write]
      exact List.all_iff_forall_prop.mp (by decide)
    | cons f rest =>
      obtain ⟨name, names⟩ := List.forall_mem_cons.mp names
      obtain ⟨first, others⟩ := List.forall_mem_cons.mp ih
      simp only [write, List.forall_mem_cons, List.forall_mem_append]
      exact ⟨by decide, ⟨⟨⟨⟨⟨separator _, isWritten_of_mem_quoted name⟩, by decide,
        by decide, nofun⟩, first _⟩, isWritten_of_mem_writeFields airy names fun f member =>
          others f member _⟩, separator _⟩, by decide, nofun⟩

end

end SeedStream.Json
