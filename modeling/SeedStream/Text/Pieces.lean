/-!
# Pieces

A row cut at every occurrence of a mark, and pieces put together with the mark between them. There
is always a piece, and putting the pieces of a row together gives the row.
-/

namespace SeedStream.Text

variable {α : Type}

/-- The pieces of a row between the occurrences of a mark. -/
def pieces [DecidableEq α] (mark : α) : List α → List (List α)
  | [] => [[]]
  | c :: rest =>
    if c = mark then [] :: pieces mark rest
    else
      match pieces mark rest with
      | [] => [[c]]
      | piece :: more => (c :: piece) :: more

/-- Pieces with the mark between each two. -/
def joined (mark : α) : List (List α) → List α
  | [] => []
  | [piece] => piece
  | piece :: rest => piece ++ mark :: joined mark rest

/-- What holds of the mark and throughout the pieces holds throughout what is joined of them. -/
theorem forall_mem_joined {P : α → Prop} {mark : α} (atMark : P mark) {rows : List (List α)}
    (inside : ∀ row ∈ rows, ∀ c ∈ row, P c) : ∀ c ∈ joined mark rows, P c := by
  fun_induction joined mark rows with
  | case1 => nofun
  | case2 row => exact inside row List.mem_cons_self
  | case3 row rest more ih =>
    obtain ⟨first, others⟩ := List.forall_mem_cons.mp inside
    refine List.forall_mem_append.mpr ⟨first, List.forall_mem_cons.mpr ⟨atMark, ih others⟩⟩

/-- Nothing in the pieces is lost in what is joined of them. -/
theorem mem_joined {mark : α} {rows : List (List α)} {row : List α} (member : row ∈ rows) {c : α} (inside : c ∈ row) :
    c ∈ joined mark rows := by
  fun_induction joined mark rows with
  | case1 => cases member
  | case2 only => exact List.mem_singleton.mp member ▸ inside
  | case3 first rest more ih =>
    rcases List.mem_cons.mp member with rfl | later
    · exact List.mem_append_left _ inside
    · exact List.mem_append_right _ (List.mem_cons_of_mem _ (ih later))

theorem pieces_ne_nil [DecidableEq α] (mark : α) (cs : List α) : pieces mark cs ≠ [] := by
  cases cs with
  | nil => simp [pieces]
  | cons c rest =>
    rw [pieces]
    split
    · simp
    · split <;> simp

/-- Nothing of a row is lost in its pieces. -/
theorem joined_pieces [DecidableEq α] (mark : α) (cs : List α) : joined mark (pieces mark cs) = cs := by
  induction cs with
  | nil => rfl
  | cons c rest ih =>
    obtain ⟨piece, more, cut⟩ := List.exists_cons_of_ne_nil (pieces_ne_nil mark rest)
    rw [cut] at ih
    by_cases h : c = mark
    · rw [pieces, if_pos h, cut, joined, ih, h]
      · rfl
      · simp
    · rw [pieces, if_neg h, cut]
      cases more with
      | nil => rw [← ih]; rfl
      | cons next more => rw [← ih]; rfl

theorem pieces_of_not_mem [DecidableEq α] {mark : α} {row : List α} (without : mark ∉ row) :
    pieces mark row = [row] := by
  induction row with
  | nil => rfl
  | cons c rest ih =>
    rw [List.mem_cons, not_or] at without
    rw [pieces, if_neg (Ne.symm without.1), ih without.2]

theorem pieces_append [DecidableEq α] {mark : α} {row : List α} (without : mark ∉ row) (rest : List α) :
    pieces mark (row ++ mark :: rest) = row :: pieces mark rest := by
  induction row with
  | nil => rw [List.nil_append, pieces, if_pos rfl]
  | cons c row ih =>
    rw [List.mem_cons, not_or] at without
    rw [List.cons_append, pieces, if_neg (Ne.symm without.1), ih without.2]

/-- Rows without the mark are the pieces of what is joined of them. -/
theorem pieces_joined [DecidableEq α] {mark : α} {rows : List (List α)} (some : rows ≠ [])
    (without : ∀ row ∈ rows, mark ∉ row) : pieces mark (joined mark rows) = rows := by
  fun_induction joined mark rows with
  | case1 => exact absurd rfl some
  | case2 row => exact pieces_of_not_mem (without row List.mem_cons_self)
  | case3 row rest more ih =>
    obtain ⟨first, others⟩ := List.forall_mem_cons.mp without
    rw [pieces_append first, ih more others]

/-- No piece holds the mark. -/
theorem not_mem_of_mem_pieces [DecidableEq α] {mark : α} {cs piece : List α} (h : piece ∈ pieces mark cs) :
    mark ∉ piece := by
  induction cs generalizing piece with
  | nil => simp_all [pieces]
  | cons c rest ih =>
    obtain ⟨first, more, cut⟩ := List.exists_cons_of_ne_nil (pieces_ne_nil mark rest)
    rw [cut] at ih
    rw [pieces, cut] at h
    by_cases eq : c = mark
    · rw [if_pos eq] at h
      rcases List.mem_cons.1 h with rfl | later
      · simp
      · exact ih later
    · rw [if_neg eq] at h
      rcases List.mem_cons.1 h with rfl | later
      · intro found
        rcases List.mem_cons.1 found with same | inside
        · exact eq same.symm
        · exact ih (by simp) inside
      · exact ih (by simp [later])

end SeedStream.Text
