import SeedStream.Proofs.Moves
import SeedStream.Proofs.SequenceDraws

/-!
# Rejection comes to an end

A draw below a bound throws words away until one is below a limit. From a seeded core that always ends:
its states lie on one cycle, and one of them gives the word zero. From words that start over it ends
exactly if one of them is accepted, and then within one turn.
-/

namespace SeedStream

open State

namespace Generator

variable {σ : Type} [EntropySource σ]

/-- A draw ends the search for an accepted word: the word is one, or there is none because it failed. -/
def settles (accepts : Word → Bool) : Except Failure Word → Bool
  | .ok w => accepts w
  | .error _ => true

/-- Throwing words away until one is accepted comes to an end. -/
def RejectionEnds (accepts : Word → Bool) (g : Generator σ) : Prop :=
  ∃ fuel, (g.drawUntil accepts fuel).isSome

/-- A search has an end within its draws exactly if one of them settles it. -/
theorem isSome_drawUntil_iff {accepts : Word → Bool} {fuel : Nat} {g : Generator σ} :
    (g.drawUntil accepts fuel).isSome ↔ ∃ k < fuel, settles accepts (after k g).draw.1 = true := by
  induction fuel generalizing g with
  | zero => simp [drawUntil]
  | succ fuel ih =>
    rw [Nat.exists_lt_succ_left]
    have later : (∃ k < fuel, settles accepts (after (k + 1) g).draw.1 = true) ↔
        (g.draw.2.drawUntil accepts fuel).isSome := ih.symm
    rw [later, drawUntil, after]
    rcases g.draw with ⟨_ | w, h⟩
    · simp [settles]
    · cases accepted : accepts w <;> simp [settles, accepted]

theorem rejectionEnds_iff {accepts : Word → Bool} {g : Generator σ} :
    g.RejectionEnds accepts ↔ ∃ k, settles accepts (after k g).draw.1 = true := by
  constructor
  · rintro ⟨fuel, found⟩
    obtain ⟨k, -, settled⟩ := isSome_drawUntil_iff.mp found
    exact ⟨k, settled⟩
  · rintro ⟨k, settled⟩
    exact ⟨k + 1, isSome_drawUntil_iff.mpr ⟨k, Nat.lt_succ_self k, settled⟩⟩

/-! ## Integer bounds -/

theorem boundOf_int {n : Nat} (positive : 0 < n) (small : n ≤ 2 ^ 32) :
    boundOf (.int n) = .ok (.whole n) := by
  rw [boundOf_of_integer (i := n) rfl, if_pos ⟨by omega, by omega⟩]
  rfl

theorem isSome_perform_below [Memory] {n : Nat} (positive : 0 < n) (small : n ≤ 2 ^ 32) {g : Generator σ} :
    (g.perform (.below (.int n))).isSome ↔
      ∃ k < maxDraws, settles (fun w => w.toNat < acceptLimit n) (after k g).draw.1 = true := by
  rw [perform_below (boundOf_int positive small), Option.isSome_map, isSome_drawUntil_iff]
  rfl

/-- A seeded core has a first accepted word before it comes back to its start. -/
theorem exists_first_accepted {n : Nat} (positive : 0 < n) (small : n ≤ 2 ^ 32) (s : State) :
    ∃ k < Jump.period, (advance k s).output.toNat < acceptLimit n ∧
      ∀ j < k, acceptLimit n ≤ (advance j s).output.toNat := by
  obtain ⟨m, early, output⟩ := exists_output_zero s
  have accepted : ∃ k, (advance k s).output.toNat < acceptLimit n :=
    ⟨m, by rw [output]; exact of_decide_eq_true (accepts_zero positive small)⟩
  refine ⟨Nat.find accepted, ?_, Nat.find_spec accepted, fun j before => Nat.le_of_not_lt (Nat.find_min accepted before)⟩
  refine Nat.lt_of_le_of_lt (Nat.find_min' accepted ?_) early
  rw [output]
  exact of_decide_eq_true (accepts_zero positive small)

/-! ## Words that start over -/

theorem source_after_native {k : Nat} (n : Nat) {g : Generator Sequence} (mode : g.mode = .native)
    (stands : g.source.StandsAt k) :
    (after n g).source.StandsAt (k + n) ∧ ∀ j, (after n g).source.nth j = g.source.nth j := by
  induction n generalizing g k with
  | zero => exact ⟨stands, fun j => rfl⟩
  | succ n ih =>
    have source : g.draw.2.source = g.source.draw.2 := by
      rw [draw_native mode]
      rfl
    obtain ⟨later, words⟩ := ih (k := k + 1) ((mode_draw g).trans mode)
      (source ▸ (Sequence.draw_of_standsAt stands).2)
    refine ⟨?_, fun j => ?_⟩
    · rw [after, show k + (n + 1) = k + 1 + n by omega]
      exact later
    · rw [after, words, source, Sequence.nth_draw]

theorem draw_after_native {k : Nat} (n : Nat) {g : Generator Sequence} (mode : g.mode = .native)
    (stands : g.source.StandsAt k) : (after n g).draw.1 = (g.source.nth (k + n)).map Word.ofInt := by
  obtain ⟨later, words⟩ := source_after_native n mode stands
  rw [draw_native ((mode_after n g).trans mode), ← words]
  exact congrArg (Except.map Word.ofInt) (Sequence.draw_of_standsAt later).1

/-- A native draw from words that start over gives the word that as many places further on lead to. -/
theorem draw_after_cycling (k : Nat) {g : Generator Sequence} (mode : g.mode = .native)
    (cycle : g.source.cycle = true) {w : Word}
    (found : g.source.values[(g.source.place + k) % g.source.values.length]? = some w) :
    (after k g).draw.1 = .ok w := by
  rw [draw_after_native k mode (Sequence.standsAt_place cycle), Sequence.nth_of_cycle cycle found]
  exact congrArg Except.ok (Word.ofInt_toNat w)

/-- A draw from words that start over that settles the search gives an accepted one of them. -/
theorem exists_accepted_of_settles {accepts : Word → Bool} {k : Nat} {g : Generator Sequence}
    (mode : g.mode = .native) (cycle : g.source.cycle = true)
    (settled : settles accepts (after k g).draw.1 = true) : ∃ w ∈ g.source.values, accepts w = true := by
  have inside := Nat.mod_lt (g.source.place + k) g.source.length_pos
  rw [draw_after_cycling k mode cycle (List.getElem?_eq_getElem inside)] at settled
  exact ⟨_, List.getElem_mem inside, settled⟩

/-- An accepted word among those that start over settles the search within one turn. -/
theorem exists_settles_of_accepted (accepts : Word → Bool) {w : Word} {g : Generator Sequence}
    (mode : g.mode = .native) (cycle : g.source.cycle = true) (member : w ∈ g.source.values)
    (accepted : accepts w = true) :
    ∃ k < g.source.values.length, settles accepts (after k g).draw.1 = true := by
  obtain ⟨i, inside, rfl⟩ := List.mem_iff_getElem.mp member
  have place := g.source.place_lt
  -- on to the end of the words, and from their start to the accepted one
  let k := (i + (g.source.values.length - g.source.place)) % g.source.values.length
  have reached : (g.source.place + k) % g.source.values.length = i := by
    rw [Nat.add_mod_mod, show g.source.place + (i + (g.source.values.length - g.source.place)) =
      i + g.source.values.length by omega, Nat.add_mod_right, Nat.mod_eq_of_lt inside]
  refine ⟨k, Nat.mod_lt _ g.source.length_pos, ?_⟩
  rw [draw_after_cycling k mode cycle (by rw [reached, List.getElem?_eq_getElem inside])]
  exact accepted

/-- Over words that start over, rejection ends exactly if one of them is accepted. -/
theorem rejectionEnds_cycling_iff (accepts : Word → Bool) {g : Generator Sequence} (mode : g.mode = .native)
    (cycle : g.source.cycle = true) : g.RejectionEnds accepts ↔ ∃ w ∈ g.source.values, accepts w = true := by
  rw [rejectionEnds_iff]
  constructor
  · rintro ⟨k, settled⟩
    exact exists_accepted_of_settles mode cycle settled
  · rintro ⟨w, member, accepted⟩
    obtain ⟨k, -, settled⟩ := exists_settles_of_accepted accepts mode cycle member accepted
    exact ⟨k, settled⟩

/-- A number below an integer bound is there exactly if one of the words that start over is accepted, as
    long as they are no more than the draws that it may take. -/
theorem isSome_perform_below_cycling_iff [Memory] {n : Nat} (positive : 0 < n) (small : n ≤ 2 ^ 32)
    {g : Generator Sequence} (mode : g.mode = .native) (cycle : g.source.cycle = true)
    (short : g.source.values.length ≤ maxDraws) :
    (g.perform (.below (.int n))).isSome ↔ ∃ w ∈ g.source.values, w.toNat < acceptLimit n := by
  rw [isSome_perform_below positive small]
  constructor
  · rintro ⟨k, -, settled⟩
    obtain ⟨w, member, accepted⟩ := exists_accepted_of_settles mode cycle settled
    exact ⟨w, member, of_decide_eq_true accepted⟩
  · rintro ⟨w, member, accepted⟩
    obtain ⟨k, inTurn, settled⟩ :=
      exists_settles_of_accepted (fun w => w.toNat < acceptLimit n) mode cycle member (decide_eq_true accepted)
    exact ⟨k, Nat.lt_of_lt_of_le inTurn short, settled⟩

/-- A draw below a bound from one to `2 ^ 32` ends in deterministic mode, whatever the state of the core: it
    takes the outputs up to the first below the largest multiple of the bound, which comes before the core
    could be where it was. Over native words that start over it ends exactly if one of them is below that
    multiple. -/
theorem below_ends [Memory] {n : Nat} (positive : 0 < n) (small : n ≤ 2 ^ 32) :
    (∀ (σ : Type) [EntropySource σ] (g : Generator σ), g.mode = .deterministic →
      ∃ k < 2 ^ 128 - 1, (advance k g.core).output.toNat < 2 ^ 32 / n * n ∧
        (∀ j < k, 2 ^ 32 / n * n ≤ (advance j g.core).output.toNat) ∧
        g.perform (.below (.int n)) =
          some (.ok (.word (UInt32.ofNat ((advance k g.core).output.toNat % n))),
            { g with core := advance (k + 1) g.core })) ∧
      ∀ g : Generator Sequence, g.mode = .native → g.source.cycle = true →
        (g.RejectionEnds (fun w => w.toNat < 2 ^ 32 / n * n) ↔ ∃ w ∈ g.source.values, w.toNat < 2 ^ 32 / n * n) ∧
        (g.source.values.length ≤ maxDraws →
          ((g.perform (.below (.int n))).isSome ↔ ∃ w ∈ g.source.values, w.toNat < 2 ^ 32 / n * n)) := by
  refine ⟨fun σ _ g mode => ?_, fun g mode cycle => ⟨?_, fun short => ?_⟩⟩
  · obtain ⟨k, early, accepted, before⟩ := exists_first_accepted positive small g.core
    refine ⟨k, early, accepted, before, ?_⟩
    have found : (outputs maxDraws g.core).findIdx? (Bound.whole n).accepts = some k := by
      refine findIdx?_outputs_eq_some_iff.mpr ⟨Nat.lt_trans early (by decide), decide_eq_true accepted, ?_⟩
      intro w member
      obtain ⟨j, earlier, rfl⟩ := mem_outputs.mp member
      exact decide_eq_false (Nat.not_lt.mpr (before j earlier))
    have stays : (Operation.below (.int n)).StaysSeeded := trivial
    rw [perform_seeded stays mode, Operation.onCore, boundOf_int positive small]
    simp only [found, Option.map_some]
    rfl
  · have ends := rejectionEnds_cycling_iff (fun w => w.toNat < 2 ^ 32 / n * n) mode cycle
    simpa only [decide_eq_true_eq] using ends
  · exact isSome_perform_below_cycling_iff positive small mode cycle short

section

attribute [local instance] Memory.standard

/-- A bound for which almost half of the words are thrown away: two words of which only the second counts,
    met at the place of the first, and the first alone. -/
theorem below_ends_half :
    0 < 0x80000001 ∧ 0x80000001 ≤ 2 ^ 32 ∧
      (perform (.below (.int 0x80000001))
        (⟨.native, State.zero, ⟨[0xffffffff, 7], true, 2, 1, by decide⟩⟩ : Generator Sequence)).isSome ∧
      ¬ RejectionEnds (fun w => w.toNat < 2 ^ 32 / 0x80000001 * 0x80000001)
        (⟨.native, State.zero, ⟨[0xffffffff], true, 0, 1, by decide⟩⟩ : Generator Sequence) := by
  obtain ⟨-, native⟩ := below_ends (n := 0x80000001) (by decide) (by decide)
  refine ⟨by decide, by decide, ?_, ?_⟩
  · exact ((native _ rfl rfl).2 (by decide)).mpr ⟨7, by decide, by decide⟩
  · rw [(native _ rfl rfl).1]
    decide

end

end Generator

end SeedStream
