import SeedStream.Entropy.Sequence
import SeedStream.Proofs.Draws

/-!
# Blocks and single draws

A block of words is made of single draws: it answers with their words, or with the failure of the first that
fails, and leaves the generator where they leave it. Two things set a block apart. Room is made for all of its
words first, so that a block that is too large is refused before anything is drawn. And a source that says in
the middle of a block that it has ended does not end the block, which fails in its own words.
-/

namespace SeedStream.Generator

variable {σ : Type} [EntropySource σ]

/-! ## Single draws -/

theorem performAll_replicate_next [Memory] (n : Nat) (g : Generator σ) :
    g.performAll (List.replicate n .next) = some ((draws n g).map (Except.map .word), after n g) := by
  induction n generalizing g with
  | zero => rfl
  | succ n ih =>
    rw [List.replicate_succ, performAll, perform]
    simp only [ih, Option.map_some, draws, after, List.map_cons]

theorem map_word_ok (ws : List Word) :
    (ws.map (Except.ok (ε := Failure))).map (Except.map Answer.word) = ws.map fun w => .ok (.word w) := by
  rw [List.map_map]
  rfl

/-! ## Words of a block -/

/-- A block answers with words exactly if all of its draws give them. -/
theorem fill_eq_ok_iff {n : Nat} {g h : Generator σ} {ws : List Word} :
    g.fill n = (.ok ws, h) ↔ draws n g = ws.map .ok ∧ h = after n g := by
  obtain ⟨vs, -, given, filled⟩ | ⟨vs, e, short, given, filled⟩ := fill_draws n g
  · rw [filled, given, map_ok_inj, Prod.mk.injEq, Except.ok.injEq, eq_comm (b := h)]
  · rw [filled]
    constructor
    · intro same
      cases same
    · rintro ⟨all, -⟩
      -- the failure is among the draws
      have split : draws n g = draws (vs.length + 1) g ++ draws (n - (vs.length + 1)) (after (vs.length + 1) g) := by
        rw [← draws_add, Nat.add_sub_cancel' short]
      refine absurd ?_ (error_notMem_map_ok e ws)
      rw [← all, split, given]
      simp

theorem fill_add_eq_ok_iff {m n : Nat} {g t : Generator σ} {us : List Word} :
    g.fill (m + n) = (.ok us, t) ↔
      ∃ ws vs h, g.fill m = (.ok ws, h) ∧ h.fill n = (.ok vs, t) ∧ us = ws ++ vs := by
  simp only [fill_eq_ok_iff, draws_add, after_add]
  constructor
  · rintro ⟨all, rfl⟩
    obtain ⟨ws, vs, rfl, first, second⟩ := List.map_eq_append_iff.mp all.symm
    exact ⟨ws, vs, after m g, ⟨first.symm, rfl⟩, ⟨second.symm, rfl⟩, rfl⟩
  · rintro ⟨ws, vs, h, ⟨first, rfl⟩, ⟨second, rfl⟩, rfl⟩
    exact ⟨by rw [first, second, List.map_append], rfl⟩

/-! ## Room for a block -/

section

variable [Memory]

/-- There is room for a number of words, in an array and in the memory of the machine. -/
def Room (n : Nat) : Prop :=
  wordSize * n < arrayLimit ∧ wordSize * n < memoryLimit

theorem Room.mono {m n : Nat} (room : Room n) (fewer : m ≤ n) : Room m := by
  have bytes : wordSize * m ≤ wordSize * n := Nat.mul_le_mul_left wordSize fewer
  exact ⟨bytes.trans_lt room.1, bytes.trans_lt room.2⟩

/-- In both modes a count is refused that no array has items, and otherwise there has to be room. -/
theorem fillCount_natCast (mode : Mode) (n : Nat) :
    ∃ e, fillCount mode (.int n) = if arrayLimit ≤ n then .error e else roomFor n := by
  have number : (!(Value.int n).isNumber) = false := rfl
  have order : (Value.int n).compareInt? 0 = some (compare (n : Int) 0) := rfl
  have proper : (Value.int n).compareInt? 0 ≠ some .lt := by
    rw [order, ne_eq, Option.some.injEq, Int.compare_eq_lt]
    omega
  cases mode with
  | deterministic =>
    refine ⟨.value .dimension, ?_⟩
    simp [fillCount, coreCount, number, proper]
  | native =>
    refine ⟨.range .size, ?_⟩
    simp [fillCount, drawCount, number, proper, Value.asIndex_int, bind, Except.bind]

theorem fillCount_of_room (mode : Mode) {n : Nat} (room : Room n) : fillCount mode (.int n) = .ok n := by
  obtain ⟨short, fits⟩ := room
  have few : ¬ arrayLimit ≤ n := by
    rw [wordSize] at short
    omega
  obtain ⟨e, counted⟩ := fillCount_natCast mode n
  rw [counted, if_neg few, roomFor, if_neg (Nat.not_le.mpr short), if_neg (Nat.not_le.mpr fits)]

theorem fillCount_of_no_room (mode : Mode) {n : Nat} (full : ¬ Room n) :
    ∃ e, fillCount mode (.int n) = .error e := by
  obtain ⟨e, counted⟩ := fillCount_natCast mode n
  rw [counted, roomFor]
  by_cases many : arrayLimit ≤ n
  · exact ⟨e, if_pos many⟩
  · rw [if_neg many]
    by_cases long : arrayLimit ≤ wordSize * n
    · exact ⟨_, if_pos long⟩
    · have large : memoryLimit ≤ wordSize * n := Nat.not_lt.mp fun fits => full ⟨Nat.not_le.mp long, fits⟩
      rw [if_neg long]
      exact ⟨_, if_pos large⟩

theorem perform_fill_of_room {n : Nat} (room : Room n) (g : Generator σ) :
    g.perform (.fill (.int n)) = some ((g.fill n).1.map .words, (g.fill n).2) := by
  rw [perform, fillCount_of_room g.mode room]

theorem perform_fill_of_no_room {n : Nat} (full : ¬ Room n) (g : Generator σ) :
    ∃ e, g.perform (.fill (.int n)) = some (.error e, g) := by
  obtain ⟨e, refused⟩ := fillCount_of_no_room g.mode full
  exact ⟨e, by rw [perform, refused]⟩

theorem perform_fill_eq_ok_iff {n : Nat} (room : Room n) {g h : Generator σ} {ws : List Word} :
    g.perform (.fill (.int n)) = some (.ok (.words ws), h) ↔ g.fill n = (.ok ws, h) := by
  rw [perform_fill_of_room room]
  rcases g.fill n with ⟨e | vs, t⟩
  · simp [Except.map]
  · simp [Except.map]

end

/-! ## Blocks -/

/-- A generator in either mode, over any source that may fail, on a machine with any memory. Where there is
    room for a block, it answers with the words of as many single draws and leaves the generator as they do;
    or one of these draws fails, and the block fails with it and leaves the generator as that draw does. The
    failure is the same, but for a source that has ended. Where there is no room, nothing is drawn. Two blocks
    in a row give the words of one that is as long as both. -/
theorem fill_agrees_with_draws [Memory] (g : Generator σ) :
    (∀ n, Room n →
      (∃ (ws : List Word) (h : Generator σ), ws.length = n ∧
          g.performAll (List.replicate n .next) = some (ws.map fun w => .ok (.word w), h) ∧
          g.perform (.fill (.int n)) = some (.ok (.words ws), h)) ∨
        ∃ (ws : List Word) (e : Failure) (h : Generator σ), ws.length < n ∧
          g.performAll (List.replicate (ws.length + 1) .next) =
            some ((ws.map fun w => .ok (.word w)) ++ [.error e], h) ∧
          g.perform (.fill (.int n)) = some (.error e.inRow, h)) ∧
      (∀ e : Failure, e.inRow = e ∨ ∃ text, e = .ended text ∧ e.inRow = .rowEnded) ∧
      (∀ n : Nat, ¬ Room n → ∃ e, g.perform (.fill (.int n)) = some (.error e, g)) ∧
      ∀ (m n : Nat) (us : List Word) (t : Generator σ), Room (m + n) →
        (g.perform (.fill (.int (m + n : Nat))) = some (.ok (.words us), t) ↔
          ∃ ws vs h, g.perform (.fill (.int m)) = some (.ok (.words ws), h) ∧
            h.perform (.fill (.int n)) = some (.ok (.words vs), t) ∧ us = ws ++ vs) := by
  refine ⟨fun n room => ?_, Failure.inRow_cases, fun n full => perform_fill_of_no_room full g,
    fun m n us t room => ?_⟩
  · rw [perform_fill_of_room room]
    obtain ⟨ws, length, given, filled⟩ | ⟨ws, e, short, given, filled⟩ := fill_draws n g
    · refine .inl ⟨ws, after n g, length, ?_, by rw [filled]; rfl⟩
      rw [performAll_replicate_next, given, map_word_ok]
    · refine .inr ⟨ws, e, after (ws.length + 1) g, short, ?_, by rw [filled]; rfl⟩
      rw [performAll_replicate_next, given, List.map_append, map_word_ok]
      rfl
  · have first : Room m := room.mono (Nat.le_add_right m n)
    have second : Room n := room.mono (Nat.le_add_left n m)
    simp only [perform_fill_eq_ok_iff room, perform_fill_eq_ok_iff first, perform_fill_eq_ok_iff second]
    exact fill_add_eq_ok_iff

section

attribute [local instance] Memory.standard

/-- A sequence that is used up in the middle of a block of three, blocks of one that end with it, and a block
    without room. -/
theorem fill_agrees_with_draws_used_up :
    let g : Generator Sequence := ⟨.native, State.zero, ⟨[5, 9], false, 0, 1, by decide⟩⟩
    Room 3 ∧ Room (1 + 1) ∧ ¬ Room (2 ^ 40) ∧
      (∃ (ws : List Word) (e : Failure) (h : Generator Sequence), ws.length < 3 ∧
        g.performAll (List.replicate (ws.length + 1) .next) =
          some ((ws.map fun w => .ok (.word w)) ++ [.error e], h) ∧
        g.perform (.fill (.int 3)) = some (.error e.inRow, h)) ∧
      (∃ ws vs h, g.perform (.fill (.int 1)) = some (.ok (.words ws), h) ∧
        h.perform (.fill (.int 1)) = some (.ok (.words vs), after 2 g) ∧ [5, 9] = ws ++ vs) ∧
      ∃ e, g.perform (.fill (.int (2 ^ 40 : Nat))) = some (.error e, g) := by
  intro g
  have three : Room 3 := ⟨by decide, by decide⟩
  have two : Room (1 + 1) := ⟨by decide, by decide⟩
  have huge : ¬ Room (2 ^ 40) := fun room => absurd room.2 (by decide)
  obtain ⟨blocks, -, refused, joined⟩ := fill_agrees_with_draws g
  refine ⟨three, two, huge, ?_, (joined 1 1 _ _ two).mp rfl, refused _ huge⟩
  have usedUp : g.perform (.fill (.int 3)) = some (.error (.entropy .exhausted), after 3 g) := rfl
  obtain ⟨ws, h, -, -, filled⟩ | failed := blocks 3 three
  · rw [show g.perform (.fill (.int (3 : Nat))) = _ from usedUp] at filled
    cases filled
  · exact failed

/-- The answer of a block is not always that of single draws: the second of them fails, but a block of
    `2 ^ 62` words is too large for an array and fails before the first. -/
theorem fill_refused_before_draws :
    let g : Generator Sequence := ⟨.native, State.ofSeed 1, ⟨[1], false, 0, 1, by decide⟩⟩
    2 ≤ 2 ^ 62 ∧ ∃ h, g.performAll (List.replicate 2 .next) =
        some ([.ok (.word 1), .error (.entropy .exhausted)], h) ∧
      g.perform (.fill (.int 0x4000000000000000)) = some (.error (.value .arraySize), g) ∧
      g.perform (.fill (.int 0x4000000000000000)) ≠ some (.error (.entropy .exhausted), h) := by
  intro g
  have refused : g.perform (.fill (.int 0x4000000000000000)) = some (.error (.value .arraySize), g) := rfl
  refine ⟨by decide, after 2 g, rfl, refused, ?_⟩
  rw [refused]
  intro same
  cases same

end

end SeedStream.Generator
