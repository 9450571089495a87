import SeedStream.Entropy.Sequence
import SeedStream.Proofs.Deterministic

/-!
# The state behind four outputs

Four outputs in a row are as good as the state. Each output gives away the second word, and the second
words of four states in a row are tied to the words of the first by exclusive or alone: the bits that the
shift drops are those of a word that is known by then. So `State.ofOutputs` finds the one state with any
four outputs, and two generators that once agree on four agree for ever.
-/

namespace SeedStream

namespace State

/-- The second word of the states with an output. -/
def unscrambled (w : Word) : Word :=
  Word.rotateLeft (w * 0x38e38e39) 25 * 0xcccccccd

theorem unscrambled_output (s : State) : unscrambled s.output = s.s1 := by
  have nine : (9 : Word) * 0x38e38e39 = 1 := by decide
  have five : (5 : Word) * 0xcccccccd = 1 := by decide
  rw [unscrambled, output, UInt32.mul_assoc, nine, UInt32.mul_one,
    Word.rotateLeft_rotateLeft _ (by decide) (by decide) (by decide), UInt32.mul_assoc, five, UInt32.mul_one]

theorem output_eq_iff_unscrambled {s : State} {w : Word} : s.output = w ↔ s.s1 = unscrambled w := by
  constructor
  · rintro rfl
    exact (unscrambled_output s).symm
  · intro second
    have nine : (0x38e38e39 : Word) * 9 = 1 := by decide
    have five : (0xcccccccd : Word) * 5 = 1 := by decide
    rw [output, second, unscrambled, UInt32.mul_assoc, five, UInt32.mul_one,
      Word.rotateLeft_rotateLeft _ (by decide) (by decide) (by decide), UInt32.mul_assoc, nine, UInt32.mul_one]

/-! ## Second words in a row -/

theorem s1_next (s : State) : s.next.s1 = s.s1 ^^^ (s.s2 ^^^ s.s0) := rfl

/-- Two steps on, the third word has cancelled out. -/
theorem s1_next_next (s : State) : s.next.next.s1 = (s.s1 <<< 9) ^^^ (s.s0 ^^^ s.s3) := by
  simp only [next]
  calc s.s1 ^^^ (s.s2 ^^^ s.s0) ^^^ (s.s2 ^^^ s.s0 ^^^ s.s1 <<< 9 ^^^ (s.s0 ^^^ (s.s3 ^^^ s.s1)))
      = (s.s1 ^^^ s.s1) ^^^ ((s.s2 ^^^ s.s0) ^^^ (s.s2 ^^^ s.s0)) ^^^ ((s.s1 <<< 9) ^^^ (s.s0 ^^^ s.s3)) := by ac_rfl
    _ = (s.s1 <<< 9) ^^^ (s.s0 ^^^ s.s3) := by simp only [UInt32.xor_self, UInt32.zero_xor]

theorem s1_next_next_next (s : State) :
    s.next.next.next.s1 =
      (s.next.s1 <<< 9) ^^^ (s.s0 ^^^ s.s3 ^^^ s.s1 ^^^ Word.rotateLeft (s.s3 ^^^ s.s1) 11) := by
  rw [s1_next_next]
  simp only [next]
  ac_rfl

/-! ## The state from its outputs -/

/-- The state with four outputs. Those at a distance of two give the exclusive or of the outer words, before
    the first step and after it; the rotation that the fourth word goes through in between tells it apart. -/
def ofOutputs (a b c d : Word) : State :=
  let before := unscrambled c ^^^ (unscrambled a <<< 9)
  let after := unscrambled d ^^^ (unscrambled b <<< 9)
  let s3 := unscrambled a ^^^ Word.rotateLeft (before ^^^ unscrambled a ^^^ after) 21
  ⟨before ^^^ s3, unscrambled a, unscrambled a ^^^ unscrambled b ^^^ (before ^^^ s3), s3⟩

theorem ofOutputs_outputs (s : State) :
    ofOutputs s.output s.next.output s.next.next.output s.next.next.next.output = s := by
  have before : s.next.next.s1 ^^^ (s.s1 <<< 9) = s.s0 ^^^ s.s3 := by
    rw [s1_next_next, xor_xor_cancel_comm]
  have after : s.next.next.next.s1 ^^^ (s.next.s1 <<< 9) =
      s.s0 ^^^ s.s3 ^^^ s.s1 ^^^ Word.rotateLeft (s.s3 ^^^ s.s1) 11 := by
    rw [s1_next_next_next, xor_xor_cancel_comm]
  have fourth : s.s1 ^^^ (s.s3 ^^^ s.s1) = s.s3 := by rw [UInt32.xor_comm s.s3, xor_cancel_left]
  have third : s.s1 ^^^ s.next.s1 ^^^ s.s0 = s.s2 := by
    rw [s1_next, xor_cancel_left, xor_cancel_right]
  simp only [ofOutputs, unscrambled_output, before, after, xor_cancel_left, xor_cancel_right, fourth, third,
    Word.rotateLeft_rotateLeft (s.s3 ^^^ s.s1) (j := 21) (k := 11) (by decide) (by decide) (by decide)]

theorem outputs_ofOutputs (a b c d : Word) : outputs 4 (ofOutputs a b c d) = [a, b, c, d] := by
  let before := unscrambled c ^^^ (unscrambled a <<< 9)
  let after := unscrambled d ^^^ (unscrambled b <<< 9)
  generalize found : ofOutputs a b c d = s
  have first : s.s1 = unscrambled a := by rw [← found, ofOutputs]
  have second : s.next.s1 = unscrambled b := by
    rw [s1_next, ← found]
    simp only [ofOutputs, xor_cancel_right, xor_cancel_left]
  have outer : s.s0 ^^^ s.s3 = before := by
    rw [← found]
    exact xor_cancel_right _ _
  have turned : Word.rotateLeft (s.s3 ^^^ s.s1) 11 = before ^^^ s.s1 ^^^ after := by
    rw [← found]
    simp only [ofOutputs, xor_xor_cancel_comm]
    exact Word.rotateLeft_rotateLeft _ (by decide) (by decide) (by decide)
  have third : s.next.next.s1 = unscrambled c := by
    rw [s1_next_next, outer, first, xor_xor_cancel_comm_assoc]
  have fourth : s.next.next.next.s1 = unscrambled d := by
    rw [s1_next_next_next, outer, turned, second, xor_cancel_left, xor_xor_cancel_comm_assoc]
  simp only [outputs_succ, outputs_zero, output_eq_iff_unscrambled.mpr first,
    output_eq_iff_unscrambled.mpr second, output_eq_iff_unscrambled.mpr third,
    output_eq_iff_unscrambled.mpr fourth]

theorem outputs_four_injective : Function.Injective (outputs 4) := by
  intro s t same
  simp only [outputs_succ, outputs_zero, List.cons.injEq, and_true] at same
  obtain ⟨first, second, third, fourth⟩ := same
  rw [← ofOutputs_outputs s, ← ofOutputs_outputs t, first, second, third, fourth]

theorem advance_injective (n : Nat) : Function.Injective (advance n) := by
  intro s t same
  rw [advance_eq_iterate, advance_eq_iterate] at same
  exact next_injective.iterate n same

/-- The next four outputs map the states one to one onto the rows of four words. Two states whose runs agree
    on four outputs in a row, at any place, are one and give the same outputs for ever. Two seeded generators
    whose next four outputs are the same have one core, and answer alike whatever is asked of them, as long
    as no seed that is zero modulo `2 ^ 32` comes. -/
theorem four_outputs_determine_state [Memory] :
    Set.BijOn (outputs 4) Set.univ {ws | ws.length = 4} ∧
      (∀ s t i, outputs 4 (advance i s) = outputs 4 (advance i t) → s = t ∧ ∀ n, outputs n s = outputs n t) ∧
      ∀ (σ τ : Type) [EntropySource σ] [EntropySource τ] (g : Generator σ) (h : Generator τ),
        g.mode = .deterministic → h.mode = .deterministic → (g.fill 4).1 = (h.fill 4).1 →
          g.core = h.core ∧ ∀ ops : List Operation, (∀ op ∈ ops, op.StaysSeeded) →
            (g.performAll ops).map (fun r => (r.1, r.2.core)) = (h.performAll ops).map fun r => (r.1, r.2.core) := by
  refine ⟨⟨?_, outputs_four_injective.injOn, ?_⟩, ?_, ?_⟩
  · intro s _
    exact length_outputs 4 s
  · rintro ws four
    obtain ⟨a, b, c, d, rfl⟩ := List.length_eq_four.mp four
    exact ⟨ofOutputs a b c d, trivial, outputs_ofOutputs a b c d⟩
  · intro s t i same
    have one : s = t := advance_injective i (outputs_four_injective same)
    exact ⟨one, fun n => by rw [one]⟩
  · intro σ τ _ _ g h seeded seeded' same
    rw [Generator.fill_seeded 4 seeded, Generator.fill_seeded 4 seeded'] at same
    have core : g.core = h.core := outputs_four_injective (Except.ok.inj same)
    refine ⟨core, fun ops stays => ?_⟩
    rw [Generator.performAll_seeded stays seeded, Generator.performAll_seeded stays seeded', core, Option.map_map,
      Option.map_map]
    rfl

section

attribute [local instance] Memory.standard

/-- The state found from the first outputs for the seed `7`, compared with the seeded state two steps on, and
    under generators over sources that differ. -/
theorem four_outputs_determine_state_seven :
    let found := ofOutputs 1639603908 209131544 1662049579 1497882870
    let g : Generator Sequence := ⟨.deterministic, ofSeed 7, ⟨[1], true, 0, 0, by decide⟩⟩
    let h : Generator Sequence := ⟨.deterministic, found, ⟨[2, 3], false, 1, 4, by decide⟩⟩
    outputs 4 (advance 2 (ofSeed 7)) = outputs 4 (advance 2 found) ∧ ofSeed 7 = found ∧
      (g.fill 4).1 = (h.fill 4).1 ∧
        (g.performAll [.below (.int 6), .fraction]).map (fun r => (r.1, r.2.core)) =
          (h.performAll [.below (.int 6), .fraction]).map fun r => (r.1, r.2.core) := by
  intro found g h
  have later : outputs 4 (advance 2 (ofSeed 7)) = outputs 4 (advance 2 found) := by decide
  have filled : (g.fill 4).1 = (h.fill 4).1 := congrArg Except.ok (show outputs 4 (ofSeed 7) = outputs 4 found by decide)
  have stays : ∀ op ∈ [Operation.below (.int 6), .fraction], op.StaysSeeded := by
    simp only [List.forall_mem_cons, List.not_mem_nil, false_implies, implies_true, and_true]
    exact ⟨trivial, trivial⟩
  obtain ⟨-, states, generators⟩ := four_outputs_determine_state
  exact ⟨later, (states _ _ 2 later).1, filled, (generators Sequence Sequence g h rfl rfl filled).2 _ stays⟩

end

end State

end SeedStream
