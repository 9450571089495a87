import SeedStream.Proofs.AbsolutePaths

/-!
# Paths and their texts

A path that a text writes goes through names without slashes. Its own text writes it again (`ofText_text`), so an
ending put behind the text is put behind the last name, and the text has an ending without slashes exactly if the
last name has (`isSuffix_text_iff`). The suffix of the last name is such an ending unless it is the whole name
(`suffix_eq_iff`).
-/

namespace SeedStream

theorem Text.joined_concat {α : Type} (mark : α) (rows : List (List α)) (last : List α) :
    joined mark (rows ++ [last]) = rows.flatMap (· ++ [mark]) ++ last := by
  induction rows with
  | nil => rfl
  | cons row rest ih =>
    obtain ⟨next, more, cut⟩ := List.exists_cons_of_ne_nil (l := rest ++ [last]) (by simp)
    rw [List.cons_append, cut, joined, ← cut, ih, List.flatMap_cons, List.append_assoc, List.append_assoc]
    · rfl
    · exact List.cons_ne_nil _ _

namespace Path

/-- The path goes through names, none of which holds a slash. -/
def IsProper (p : Path) : Prop :=
  ∀ part ∈ p.parts, isName part = true ∧ slash ∉ part

theorem isProper_ofText (t : Text) : (ofText t).IsProper := by
  intro part member
  obtain ⟨inside, named⟩ := List.mem_filter.mp member
  exact ⟨named, Text.not_mem_of_mem_pieces inside⟩

theorem IsProper.resolve {working p : Path} (folder : working.IsProper) (proper : p.IsProper) :
    (Path.resolve working p).IsProper := by
  intro part member
  have inside : part ∈ (under working p).parts := (FileTree.mem_follow member).resolve_left List.not_mem_nil
  rw [under] at inside
  split at inside
  · rcases List.mem_append.mp inside with before | own
    · exact folder part before
    · exact proper part own
  · exact proper part inside

/-! ## The text of a path -/

variable {p : Path} {parts : List Text}

theorem takeWhile_slash_joined (proper : ∀ part ∈ parts, isName part = true ∧ slash ∉ part) :
    (Text.joined slash parts).takeWhile (· == slash) = [] := by
  cases parts with
  | nil => rfl
  | cons part rest =>
    obtain ⟨named, without⟩ := proper part List.mem_cons_self
    cases part with
    | nil => cases named
    | cons letter more =>
      have other : ¬ (letter == slash) = true := fun same => without (eq_of_beq same ▸ List.mem_cons_self)
      cases rest with
      | nil => exact List.takeWhile_cons_of_neg other
      | cons next others => exact List.takeWhile_cons_of_neg other

/-- Slashes before the names of a path say where it starts, and nothing else. -/
theorem ofText_slashes (k : Nat) (proper : ∀ part ∈ parts, isName part = true ∧ slash ∉ part) (named : parts ≠ []) :
    ofText (List.replicate k slash ++ Text.joined slash parts) = ⟨anchorOf (List.replicate k slash), parts⟩ := by
  have start (k : Nat) : anchorOf (List.replicate k slash ++ Text.joined slash parts) = anchorOf (List.replicate k slash) := by
    have all : ∀ l ∈ List.replicate k slash, (l == slash) = true := fun l member =>
      beq_iff_eq.mpr (List.eq_of_mem_replicate member)
    rw [anchorOf, anchorOf, List.takeWhile_append_of_pos all, takeWhile_slash_joined proper, List.append_nil,
      List.takeWhile_replicate, if_pos (beq_self_eq_true slash)]
  have cut (k : Nat) : (Text.pieces slash (List.replicate k slash ++ Text.joined slash parts)).filter isName = parts := by
    induction k with
    | zero =>
      rw [List.replicate_zero, List.nil_append, Text.pieces_joined named fun part member => (proper part member).2]
      exact List.filter_eq_self.mpr fun part member => (proper part member).1
    | succ k ih =>
      rw [List.replicate_succ, List.cons_append, Text.pieces, if_pos rfl]
      exact ih
  rw [ofText, start, cut]

theorem text_of_named (named : p.parts ≠ []) : p.text = Text.ofString p.anchor.text ++ Text.joined slash p.parts :=
  if_neg fun bare => named bare.2

/-- A path is written by its own text. -/
theorem ofText_text (proper : p.IsProper) (named : p.parts ≠ []) : ofText p.text = p := by
  obtain ⟨anchor, parts⟩ := p
  have slashes : ∃ k, Text.ofString anchor.text = List.replicate k slash ∧ anchorOf (List.replicate k slash) = anchor := by
    cases anchor with
    | here => exact ⟨0, rfl, rfl⟩
    | root => exact ⟨1, rfl, rfl⟩
    | doubleRoot => exact ⟨2, rfl, rfl⟩
  obtain ⟨k, front, start⟩ := slashes
  rw [text_of_named named, front, ofText_slashes k proper named, start]

/-! ## Endings -/

variable {init : List Text} {last : Text}

theorem name_of_parts (parts : p.parts = init ++ [last]) : p.name = last := by
  rw [name, parts, List.getLastD_concat]

/-- What is put behind the last name is put behind the text. -/
theorem text_append (parts : p.parts = init ++ [last]) (ending : Text) :
    text { p with parts := init ++ [last ++ ending] } = p.text ++ ending := by
  have named : p.parts ≠ [] := parts ▸ List.concat_ne_nil _ _
  have text := text_of_named (p := { p with parts := init ++ [last ++ ending] }) (List.concat_ne_nil _ _)
  rw [text, text_of_named named, parts, Text.joined_concat, Text.joined_concat]
  simp only [List.append_assoc]

/-- Before the last name stands nothing or a slash. -/
theorem text_eq_append (parts : p.parts = init ++ [last]) :
    ∃ front, p.text = front ++ last ∧ (front = [] ∨ ∃ more, front = more ++ [slash]) := by
  have named : p.parts ≠ [] := parts ▸ List.concat_ne_nil _ _
  refine ⟨Text.ofString p.anchor.text ++ init.flatMap (· ++ [slash]), ?_, ?_⟩
  · rw [text_of_named named, parts, Text.joined_concat, List.append_assoc]
  · rcases List.eq_nil_or_concat init with rfl | ⟨names, name, rfl⟩
    · cases p.anchor with
      | here => exact .inl rfl
      | root => exact .inr ⟨[], rfl⟩
      | doubleRoot => exact .inr ⟨[slash], rfl⟩
    · refine .inr ⟨Text.ofString p.anchor.text ++ (names.flatMap (· ++ [slash]) ++ name), ?_⟩
      rw [List.concat_eq_append, List.flatMap_append, List.flatMap_singleton]
      simp only [List.append_assoc]

/-- The text of a path has an ending without slashes exactly if the last name has. -/
theorem isSuffix_text_iff (parts : p.parts = init ++ [last]) {ending : Text} (without : slash ∉ ending) :
    ending <:+ p.text ↔ ending <:+ last := by
  obtain ⟨front, text, closed⟩ := text_eq_append parts
  rw [text]
  refine ⟨fun whole => ?_, fun inside => inside.trans (List.suffix_append front last)⟩
  rcases List.suffix_or_suffix_of_suffix whole (List.suffix_append front last) with inside | ⟨more, rfl⟩
  · exact inside
  · -- What the ending has before the last name ends where that begins, so with a slash if it is not empty.
    have before : more <:+ front := List.suffix_append_self_iff.mp whole
    rcases closed with rfl | ⟨names, rfl⟩
    · rw [List.suffix_nil.mp before]
      exact List.suffix_rfl
    · rcases List.suffix_concat_iff.mp before with rfl | ⟨names, rfl, -⟩
      · exact List.suffix_rfl
      · exact absurd (by simp) without

/-- The suffix of a name is a dot with letters behind it exactly if the name ends so, and has more before it. -/
theorem suffix_eq_iff {letters : Text} (given : letters ≠ []) (without : dot ∉ letters) :
    p.suffix = dot :: letters ↔ ∃ front, front ≠ [] ∧ p.name = front ++ dot :: letters := by
  rw [suffix]
  constructor
  · intro same
    split at same
    case isTrue => cases same
    case isFalse long =>
      have tail : (p.name.reverse.takeWhile (· != dot)).reverse = letters := (List.cons.inj same).2
      have whole := @List.takeWhile_append_dropWhile _ (· != dot) p.name.reverse
      have stop := List.head?_dropWhile_not (· != dot) p.name.reverse
      rw [List.reverse_eq_iff.mp tail] at long whole
      cases rest : p.name.reverse.dropWhile (· != dot) with
      | nil =>
        rw [rest, List.append_nil] at whole
        have length := congrArg List.length whole
        simp at length long
        omega
      | cons first behind =>
        rw [rest] at stop whole
        have first_eq : first = dot := by simpa using stop
        have name : p.name = behind.reverse ++ dot :: letters := by
          rw [← List.reverse_reverse p.name, ← whole, first_eq]
          simp
        refine ⟨behind.reverse, ?_, name⟩
        rintro empty
        rw [name, empty] at long
        simp at long
  · rintro ⟨front, more, name⟩
    have tail : p.name.reverse.takeWhile (· != dot) = letters.reverse := by
      have other : ∀ l ∈ letters.reverse, (l != dot) = true := by
        intro l member
        exact bne_iff_ne.mpr fun same => without (same ▸ List.mem_reverse.mp member)
      rw [name, List.reverse_append, List.reverse_cons, List.append_assoc, List.takeWhile_append_of_pos other]
      simp
    have long : ¬ (letters.reverse.isEmpty || p.name.length ≤ letters.reverse.length + 1) = true := by
      have positive := List.length_pos_iff.mpr more
      rw [name]
      simp [given]
      omega
    rw [tail, if_neg long, List.reverse_reverse]

end Path

end SeedStream
