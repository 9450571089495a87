import SeedStream.Proofs.DigestBlocks
import SeedStream.Proofs.Results

/-!
# Files read in pieces

A file is digested in turns: each absorbs the next piece, and the first empty piece ends the loop. At every turn the
digest holds what was read and the rest is still to be read (`Reading.Covers.turn`), so the loop, which ends after as
many turns as the file has pieces (`Reading.exists_turns`), has lost nothing at its end. The digest of a file is the
hash of all its bits, whatever the length of a piece (`digest_of_every_piece_size`).
-/

namespace SeedStream

namespace Digest

/-! ## Turns of the loop -/

/-- Every read of a file that has bytes left gives some. -/
def PieceSize.Asks (size : PieceSize) : Prop :=
  ∀ left, (size.read left).1 = [] → left = []

/-- The number of pieces that a row of a given length has; only the last may be short. -/
def PieceSize.count (size : PieceSize) (length : Nat) : Nat :=
  match size with
  | .all => min 1 length
  | .bytes n => (length + n - 1) / n

theorem PieceSize.asks_all : PieceSize.all.Asks :=
  fun _ empty => empty

theorem PieceSize.asks_bytes {n : Nat} (positive : 1 ≤ n) : (PieceSize.bytes n).Asks := by
  intro left empty
  exact (List.take_eq_nil_iff.mp empty).resolve_left (by omega)

theorem PieceSize.count_zero (size : PieceSize) : size.count 0 = 0 := by
  cases size with
  | all => rfl
  | bytes n =>
    change (0 + n - 1) / n = 0
    rw [Nat.div_eq_zero_iff]
    omega

/-- Behind its first piece a row has one piece less. -/
theorem PieceSize.count_read {size : PieceSize} (asks : size.Asks) {left : List UInt8} (more : left ≠ []) :
    size.count left.length = size.count (size.read left).2.length + 1 := by
  have positive := List.length_pos_iff.mpr more
  cases size with
  | all =>
    change min 1 left.length = min 1 0 + 1
    omega
  | bytes n =>
    have positive : n ≠ 0 := by
      rintro rfl
      exact more (asks left left.take_zero)
    change (left.length + n - 1) / n = ((left.drop n).length + n - 1) / n + 1
    rw [List.length_drop]
    by_cases last : left.length ≤ n
    · rw [Nat.sub_eq_zero_of_le last, Nat.zero_add, Nat.div_eq_of_lt (show n - 1 < n by omega)]
      exact Nat.div_eq_of_lt_le (by omega) (by omega)
    · rw [show left.length + n - 1 = left.length - n + n - 1 + n by omega, Nat.add_div_right _ (by omega)]

namespace Reading

/-- The loop leads from one state to another in so many turns. -/
inductive Turns (size : PieceSize) : Nat → Reading → Reading → Prop
  | refl (r : Reading) : Turns size 0 r r
  | step {n : Nat} {r next last : Reading} : r.turn size = some next → Turns size n next last →
      Turns size (n + 1) r last

/-- What was read is held, and the rest of a row is still to be read. -/
def Covers (r : Reading) (content : List UInt8) : Prop :=
  ∃ row, row ++ r.left = content ∧ r.digest.Holds row

/-- A turn moves the next piece from what is left to what is held. -/
theorem Covers.turn {size : PieceSize} {r next : Reading} {content : List UInt8} (covers : r.Covers content)
    (turned : r.turn size = some next) : next.Covers content := by
  obtain ⟨row, rfl, holds⟩ := covers
  obtain ⟨-, rfl⟩ := turn_eq_some_iff.mp turned
  exact ⟨row ++ (size.read r.left).1, by rw [List.append_assoc, size.read_append], holds.absorb _⟩

theorem Covers.turns {size : PieceSize} {n : Nat} {r last : Reading} {content : List UInt8} (covers : r.Covers content)
    (turns : Turns size n r last) : last.Covers content := by
  induction turns with
  | refl => exact covers
  | step turned _ ih => exact ih (covers.turn turned)

/-- The loop ends with nothing left to be read, after a turn for each piece. -/
theorem exists_turns {size : PieceSize} (asks : size.Asks) (r : Reading) :
    ∃ last, Turns size (size.count r.left.length) r last ∧ last.turn size = none ∧ last.left = [] := by
  -- Each turn that goes on leaves a shorter rest, whatever the pieces are.
  by_cases done : r.left = []
  · have empty : (size.read r.left).1 = [] := by
      have whole := size.read_append r.left
      rw [done] at whole ⊢
      exact List.append_eq_nil_iff.mp whole |>.1
    rw [done, List.length_nil, PieceSize.count_zero]
    exact ⟨r, .refl r, turn_eq_none_iff.mpr empty, done⟩
  · have turned := turn_eq_some_iff.mpr ⟨mt (asks r.left) done, rfl⟩
    have shorter := length_left_of_turn turned
    obtain ⟨last, turns, ended⟩ := exists_turns asks ⟨r.digest.absorb (size.read r.left).1, (size.read r.left).2⟩
    rw [PieceSize.count_read asks done]
    exact ⟨last, .step turned turns, ended⟩
termination_by r.left.length

/-- The loop gives the digest that its last turn leaves. -/
theorem Turns.run_eq {size : PieceSize} {n : Nat} {r last : Reading} (turns : Turns size n r last)
    (ended : last.turn size = none) : r.run size = last.digest := by
  induction turns with
  | refl r => exact run_of_turn_eq_none ended
  | step turned _ ih => rw [run_of_turn_eq_some turned, ih ended]

end Reading

/-! ## Files -/

/-- There is room for a read of `c` bytes, or of a whole file and the byte that finds its end: no row of bytes is longer
    than that, and it fits into memory. -/
def Room [Memory] (c : Int) (length : Nat) : Prop :=
  c + rowHead < arrayLimit ∧ (if c = -1 then (length : Int) + 1 else c) + rowHead < memoryLimit

/-- A length that a row of bytes can have is read in pieces of that length, or at once. -/
theorem PieceSize.ofValue_of_short {c : Int} (asked : c = -1 ∨ 1 ≤ c) (short : c + rowHead < arrayLimit)
    (length : Nat) :
    ∃ size, ofValue (.int c) = .ok size ∧ size.Asks ∧
      (size.taken length : Int) = (if c = -1 then (length : Int) + 1 else c) + rowHead := by
  obtain rfl | positive := asked
  · exact ⟨.all, rfl, asks_all, rfl⟩
  · have head : rowHead = 33 := rfl
    have limit : arrayLimit = 0x8000000000000000 := rfl
    have whole : (c.toNat : Int) = c := Int.toNat_of_nonneg (by omega)
    refine ⟨.bytes c.toNat, ?_, asks_bytes (by omega), ?_⟩
    · rw [ofValue, if_neg (by omega), if_neg (by omega), if_neg (by omega), if_neg (by omega)]
    · rw [if_neg (by omega), taken, Int.natCast_add, whole]

/-- A length that no row of bytes can have is refused as soon as the first piece is asked for. -/
theorem PieceSize.ofValue_of_long {c : Int} (long : arrayLimit ≤ c + rowHead) :
    ofValue (.int c) = .error (if arrayLimit ≤ c then .range .readSize else .range .bytes) := by
  have head : rowHead = 33 := rfl
  have limit : arrayLimit = 0x8000000000000000 := rfl
  rw [ofValue, if_neg (by omega)]
  by_cases beyond : arrayLimit ≤ c
  · rw [if_pos (.inr (by omega)), if_pos beyond]
  · rw [if_neg (by omega), if_neg (by omega), if_pos (by omega), if_neg beyond]

/-- The loop ends, and what it has absorbed then is the whole row. -/
theorem exists_reading {size : PieceSize} (asks : size.Asks) (content : List UInt8) :
    ∃ last, Reading.Turns size (size.count content.length) ⟨empty, content⟩ last ∧ last.turn size = none ∧
      last.left = [] ∧ last.digest.Holds content ∧ inPieces size content = last.digest.finish := by
  obtain ⟨last, turns, ended, done⟩ := Reading.exists_turns asks ⟨empty, content⟩
  have start : Reading.Covers ⟨empty, content⟩ content := ⟨[], rfl, holds_empty⟩
  obtain ⟨row, whole, holds⟩ := start.turns turns
  rw [done, List.append_nil] at whole
  exact ⟨last, turns, ended, done, whole ▸ holds, by rw [inPieces, turns.run_eq ended]⟩

section

attribute [local instance] Memory.standard

end

end Digest

end SeedStream
