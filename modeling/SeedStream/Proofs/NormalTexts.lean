import Mathlib.Data.List.Basic
import SeedStream.Text.Blank
import SeedStream.Text.LowerCase

/-!
# Normal texts

The normal form of a text, in which names are looked up, has no blanks around it and no capital letters. To make it
anew changes nothing, as far as names are concerned: no small letter is a blank, none is the Kelvin sign, which alone
of all letters above ASCII has a small letter in ASCII, and so what has become ASCII stays what it is
(`normal_normal`).
-/

namespace SeedStream.Text

/-! ## Small letters -/

/-- The small letters of a run keep clear of the code points between two. -/
def CaseRun.Avoids (run : CaseRun) (low high : Nat) : Prop :=
  run.last + run.shift < low ∨ high < run.first + run.shift

instance (run : CaseRun) (low high : Nat) : Decidable (run.Avoids low high) :=
  inferInstanceAs (Decidable (_ ∨ _))

/-- The blanks above ASCII, in ranges. -/
def highBlanks : List (Nat × Nat) :=
  [(0x85, 0x85), (0xa0, 0xa0), (0x1680, 0x1680), (0x2000, 0x200a), (0x2028, 0x2029), (0x202f, 0x202f),
    (0x205f, 0x205f), (0x3000, 0x3000)]

/-- The code point of the Kelvin sign, whose small letter is in ASCII. -/
def kelvin : Nat := 0x212a

/-- Capital letters above ASCII have small letters that are characters, no blanks and no Kelvin sign, and that are
    above ASCII too, unless they are the one of the Kelvin sign. -/
def CaseRun.IsClear (run : CaseRun) : Prop :=
  128 ≤ run.first ∧ 0 ≤ run.first + run.shift ∧ run.last + run.shift < 0x110000 ∧ run.Avoids 0xd800 0xdfff ∧
    run.Avoids kelvin kelvin ∧ (∀ r ∈ highBlanks, run.Avoids r.1 r.2) ∧
    (128 ≤ run.first + run.shift ∨ run.first = kelvin ∧ run.last = kelvin ∧ kelvin + run.shift = 'k'.toNat)

instance (run : CaseRun) : Decidable run.IsClear :=
  inferInstanceAs (Decidable (_ ∧ _))

theorem isClear_of_mem_caseRuns : ∀ run ∈ caseRuns, run.IsClear := by decide +kernel

theorem ascii_induction {P : Char → Prop} (each : ∀ n < 128, P (Char.ofNat n)) {c : Char} (ascii : c.toNat < 128) : P c :=
  Char.ofNat_toNat c ▸ each c.toNat ascii

/-- A character is its own small letter, or has one in ASCII or in a run of capital letters. -/
theorem lowerChar_cases (c : Char) : (c.toNat < 128 ∧ lowerChar c = c.toLower) ∨ (128 ≤ c.toNat ∧ lowerChar c = c) ∨
    ∃ run ∈ caseRuns, run.first ≤ c.toNat ∧ c.toNat ≤ run.last ∧ ((lowerChar c).toNat : Int) = c.toNat + run.shift := by
  by_cases ascii : c.toNat < 128
  · exact .inl ⟨ascii, if_pos ascii⟩
  rw [lowerChar, if_neg ascii]
  split
  case h_2 => exact .inr (.inl ⟨Nat.le_of_not_lt ascii, rfl⟩)
  case h_1 run found =>
    have member := List.mem_of_find?_eq_some found
    have inside := List.find?_some found
    simp only [Bool.and_eq_true, decide_eq_true_eq] at inside
    obtain ⟨-, positive, small, halves, -⟩ := isClear_of_mem_caseRuns run member
    refine .inr (.inr ⟨run, member, inside.1.1, inside.1.2, ?_⟩)
    have valid : (c.toNat + run.shift).toNat.isValidChar := by
      rw [CaseRun.Avoids] at halves
      rw [Nat.isValidChar]
      omega
    have value : (Char.ofNat (c.toNat + run.shift).toNat).toNat = (c.toNat + run.shift).toNat := by
      rw [Char.ofNat, dif_pos valid]
      rfl
    rw [value]
    omega

/-- The character is no capital letter of ASCII and not the Kelvin sign. -/
def IsSmall (c : Char) : Prop :=
  c.toNat ≠ kelvin ∧ (c.toNat < 128 → c.toLower = c)

theorem isSmall_lowerChar (c : Char) : IsSmall (lowerChar c) := by
  obtain ⟨ascii, lower⟩ | ⟨high, lower⟩ | ⟨run, member, first, last, value⟩ := lowerChar_cases c
  · rw [lower]
    have small : c.toLower.toNat < 128 :=
      ascii_induction (P := fun c => c.toLower.toNat < 128) (by decide) ascii
    have again : c.toLower.toLower = c.toLower :=
      ascii_induction (P := fun c => c.toLower.toLower = c.toLower) (by decide) ascii
    exact ⟨Nat.ne_of_lt (Nat.lt_trans small (by decide)), fun _ => again⟩
  · have other : c.toNat ≠ kelvin := by
      intro same
      have sign : c = Char.ofNat kelvin := Char.toNat_inj.mp same
      rw [sign] at lower
      exact absurd lower (by decide)
    rw [lower]
    exact ⟨other, fun ascii => absurd ascii (Nat.not_lt.mpr high)⟩
  · obtain ⟨-, -, -, -, sign, -, range⟩ := isClear_of_mem_caseRuns run member
    refine ⟨?_, fun ascii => ?_⟩
    · rw [CaseRun.Avoids] at sign
      omega
    · have letter : (lowerChar c).toNat = 'k'.toNat := by omega
      rw [Char.toNat_inj.mp letter]
      decide

/-- What is in ASCII behind a small letter is that letter itself. -/
theorem lowerChar_eq_self {c : Char} (small : IsSmall c) (ascii : (lowerChar c).toNat < 128) : lowerChar c = c := by
  obtain ⟨low, lower⟩ | ⟨-, lower⟩ | ⟨run, member, first, last, value⟩ := lowerChar_cases c
  · exact lower.trans (small.2 low)
  · exact lower
  · obtain ⟨-, -, -, -, -, -, range⟩ := isClear_of_mem_caseRuns run member
    exact absurd (by omega) small.1

/-- No blank is the small letter of anything else. -/
theorem isBlank_of_lowerChar {c : Char} (blank : isBlank (lowerChar c) = true) : isBlank c = true := by
  obtain ⟨ascii, lower⟩ | ⟨-, lower⟩ | ⟨run, member, first, last, value⟩ := lowerChar_cases c
  · rw [lower] at blank
    exact ascii_induction (P := fun c => isBlank c.toLower = true → isBlank c = true) (by decide) ascii blank
  · rwa [lower] at blank
  · obtain ⟨-, -, -, -, -, clear, range⟩ := isClear_of_mem_caseRuns run member
    simp only [highBlanks, List.forall_mem_cons, CaseRun.Avoids] at clear
    simp only [isBlank, Bool.or_eq_true, Bool.and_eq_true, decide_eq_true_eq, beq_iff_eq] at blank
    have letter : 'k'.toNat = 107 := rfl
    omega

/-! ## Texts in small letters -/

/-- The letter is a small one, or half a pair. -/
def IsSmallLetter (l : Letter) : Prop :=
  ∀ c, l = .char c → IsSmall c

/-- The letter is a character of ASCII. -/
def IsAscii (l : Letter) : Prop :=
  ∃ c, l = .char c ∧ c.toNat < 128

theorem isSmallLetter_char {c : Char} (small : IsSmall c) : IsSmallLetter (.char c) := by
  rintro _ ⟨⟩
  exact small

/-- The letters of a lower-case form: those of the small i with its dot, a sigma, or the small letter. -/
theorem mem_lowerAt {before after : Text} {c : Char} {l : Letter} (member : l ∈ lowerAt before c after) :
    (∃ n ∈ [0x69, 0x307, 0x3c2, 0x3c3], l = .char (Char.ofNat n)) ∨ l = .char (lowerChar c) := by
  rw [lowerAt] at member
  split at member
  · simp only [List.mem_cons, List.not_mem_nil, or_false] at member
    rcases member with rfl | rfl
    · exact .inl ⟨0x69, by decide, rfl⟩
    · exact .inl ⟨0x307, by decide, rfl⟩
  split at member
  · rw [List.mem_singleton.mp member]
    split
    · exact .inl ⟨0x3c2, by decide, rfl⟩
    · exact .inl ⟨0x3c3, by decide, rfl⟩
  · exact .inr (List.mem_singleton.mp member)

theorem isSmallLetter_of_mem_lowerFrom {before t : Text} : ∀ l ∈ lowerFrom before t, IsSmallLetter l := by
  induction t generalizing before with
  | nil => exact List.forall_mem_nil _
  | cons first rest ih =>
    cases first with
    | half u => exact List.forall_mem_cons.mpr ⟨nofun, ih⟩
    | char c =>
      refine List.forall_mem_append.mpr ⟨fun l member => ?_, ih⟩
      obtain ⟨n, listed, rfl⟩ | rfl := mem_lowerAt member
      · have small : ∀ n ∈ [0x69, 0x307, 0x3c2, 0x3c3], (Char.ofNat n).toNat ≠ kelvin ∧
            ((Char.ofNat n).toNat < 128 → (Char.ofNat n).toLower = Char.ofNat n) := by decide
        exact isSmallLetter_char (small n listed)
      · exact isSmallLetter_char (isSmall_lowerChar c)

/-- A text of small letters whose lower-case form is in ASCII is that form itself. -/
theorem lowerFrom_eq_self {before t : Text} (small : ∀ l ∈ t, IsSmallLetter l)
    (ascii : ∀ l ∈ lowerFrom before t, IsAscii l) : lowerFrom before t = t := by
  induction t generalizing before with
  | nil => rfl
  | cons first rest ih =>
    obtain ⟨firstSmall, restSmall⟩ := List.forall_mem_cons.mp small
    cases first with
    | half u =>
      obtain ⟨⟨_, same, -⟩, -⟩ := List.forall_mem_cons.mp ascii
      cases same
    | char c =>
      obtain ⟨firstAscii, restAscii⟩ := List.forall_mem_append.mp ascii
      rw [lowerFrom, ih restSmall restAscii]
      -- Neither the dot of a small i nor a sigma is in ASCII, so nothing but the small letter is left.
      have single : lowerAt before c rest = [.char (lowerChar c)] := by
        rw [lowerAt] at firstAscii ⊢
        split at firstAscii
        · obtain ⟨_, same, low⟩ := firstAscii (.char (Char.ofNat 0x307)) (by simp)
          cases same
          exact absurd low (by decide)
        split at firstAscii
        · obtain ⟨_, same, low⟩ := List.forall_mem_singleton.mp firstAscii
          cases same
          split at low <;> exact absurd low (by decide)
        · rename_i noDot noSigma
          rw [if_neg noDot, if_neg noSigma]
      rw [single] at firstAscii ⊢
      obtain ⟨_, same, low⟩ := List.forall_mem_singleton.mp firstAscii
      cases same
      rw [lowerChar_eq_self (firstSmall c rfl) low]
      rfl

/-! ## Ends -/

section

variable {α : Type} {p : α → Bool} {xs : List α}

theorem head?_dropWhile {x : α} (first : x ∈ (xs.dropWhile p).head?) : p x = false := by
  have stop := List.head?_dropWhile_not p xs
  rw [Option.mem_def.mp first] at stop
  exact stop

theorem dropWhile_eq_self (first : ∀ x ∈ xs.head?, p x = false) : xs.dropWhile p = xs := by
  cases xs with
  | nil => rfl
  | cons x rest => rw [List.dropWhile_cons, first x rfl, if_neg Bool.false_ne_true]

theorem trim_eq_self (first : ∀ x ∈ xs.head?, p x = false) (last : ∀ x ∈ xs.getLast?, p x = false) :
    trim p xs = xs := by
  rw [← List.head?_reverse] at last
  rw [trim, dropWhile_eq_self first, dropWhile_eq_self last, List.reverse_reverse]

theorem getLast?_trim {x : α} (last : x ∈ (trim p xs).getLast?) : p x = false := by
  rw [trim, List.getLast?_reverse] at last
  exact head?_dropWhile last

theorem head?_trim {x : α} (first : x ∈ (trim p xs).head?) : p x = false := by
  -- What is left of the row begins as it does before its end is cut off.
  have begins : (trim p xs) <+: xs.dropWhile p := by
    rw [trim, ← List.reverse_suffix, List.reverse_reverse]
    exact List.dropWhile_suffix p
  obtain ⟨rest, whole⟩ := begins
  have same : x ∈ (xs.dropWhile p).head? := by
    rw [← whole, List.head?_append, Option.mem_def.mp first]
    rfl
  exact head?_dropWhile same

end

theorem not_blank_of_mem_lowerAt {before after : Text} {c : Char} (solid : isBlank c = false) {l : Letter}
    (member : l ∈ lowerAt before c after) : l.satisfies isBlank = false := by
  obtain ⟨n, listed, rfl⟩ | rfl := mem_lowerAt member
  · have solid : ∀ n ∈ [0x69, 0x307, 0x3c2, 0x3c3], isBlank (Char.ofNat n) = false := by decide
    exact solid n listed
  · exact Bool.eq_false_iff.mpr fun blank => Bool.false_ne_true (solid.symm.trans (isBlank_of_lowerChar blank))

theorem lowerAt_ne_nil (before : Text) (c : Char) (after : Text) : lowerAt before c after ≠ [] := by
  rw [lowerAt]
  split
  · exact List.cons_ne_nil _ _
  split <;> exact List.cons_ne_nil _ _

theorem lowerFrom_ne_nil {before t : Text} (filled : t ≠ []) : lowerFrom before t ≠ [] := by
  cases t with
  | nil => exact absurd rfl filled
  | cons first rest =>
    cases first with
    | half u => exact List.cons_ne_nil _ _
    | char c => exact List.append_ne_nil_of_left_ne_nil (lowerAt_ne_nil before c rest) _

/-- A lower-case form begins with a blank only if the text does. -/
theorem head?_lowerFrom {before t : Text} (solid : ∀ l ∈ t.head?, l.satisfies isBlank = false) {l : Letter}
    (first : l ∈ (lowerFrom before t).head?) : l.satisfies isBlank = false := by
  cases t with
  | nil => cases first
  | cons k rest =>
    cases k with
    | half u =>
      cases first
      rfl
    | char c =>
      rw [lowerFrom, List.head?_append_of_ne_nil _ (lowerAt_ne_nil before c rest)] at first
      exact not_blank_of_mem_lowerAt (solid _ rfl) (List.mem_of_head? first)

theorem getLast?_lowerFrom {before t : Text} (solid : ∀ l ∈ t.getLast?, l.satisfies isBlank = false) {l : Letter}
    (last : l ∈ (lowerFrom before t).getLast?) : l.satisfies isBlank = false := by
  induction t generalizing before with
  | nil => cases last
  | cons k rest ih =>
    by_cases single : rest = []
    · subst single
      cases k with
      | half u =>
        cases last
        rfl
      | char c =>
        rw [lowerFrom, lowerFrom, List.append_nil] at last
        exact not_blank_of_mem_lowerAt (solid _ rfl) (List.mem_of_getLast? last)
    · have later : ∀ l ∈ rest.getLast?, l.satisfies isBlank = false := by
        rwa [List.getLast?_cons_of_ne_nil single] at solid
      have behind : l ∈ (lowerFrom (k :: before) rest).getLast? := by
        cases k with
        | half u => rwa [lowerFrom, List.getLast?_cons_of_ne_nil (lowerFrom_ne_nil single)] at last
        | char c => rwa [lowerFrom, List.getLast?_append_of_ne_nil _ (lowerFrom_ne_nil single)] at last
      exact ih later behind

/-! ## Normal forms -/

/-- The normal form of a text: no blanks around it, and small letters. -/
def normal (t : Text) : Text :=
  lower (strip t)

theorem strip_normal (t : Text) : strip (normal t) = normal t :=
  trim_eq_self (fun _ first => head?_lowerFrom (fun _ => head?_trim) first)
    fun _ last => getLast?_lowerFrom (fun _ => getLast?_trim) last

/-- A normal form whose own normal form is in ASCII is normal. -/
theorem normal_normal {t : Text} (ascii : ∀ l ∈ normal (normal t), IsAscii l) : normal (normal t) = normal t := by
  have again : normal (normal t) = lowerFrom [] (normal t) := congrArg lower (strip_normal t)
  rw [again] at ascii ⊢
  exact lowerFrom_eq_self isSmallLetter_of_mem_lowerFrom ascii

end SeedStream.Text
