import SeedStream.Proofs.SecureHash
import SeedStream.Proofs.WordMaps

/-!
# Compression of a block

Compressing a block of sixty-four bytes into a chaining value takes the hash value of the standard over the block
(`variables_compress`): the words of the block, their schedule and the rounds are those of the standard.
-/

namespace SeedStream

namespace Digest

/-! ## Words -/

/-- A number of places by which a rotation moves every bit. -/
def IsTurn (k : Word) : Prop :=
  0 < k.toNat ∧ k.toNat < 32

instance : DecidablePred IsTurn :=
  fun k => inferInstanceAs (Decidable (0 < k.toNat ∧ k.toNat < 32))

theorem toBitVec_rotateRight (w : Word) {k : Word} (turn : IsTurn k) :
    (rotateRight w k).toBitVec = w.toBitVec.rotateRight k.toNat := by
  obtain ⟨moves, short⟩ := turn
  have rest : (32 - k).toNat = 32 - k.toNat := UInt32.toNat_sub_of_le _ _ (UInt32.le_iff_toNat_le.mpr short.le)
  apply BitVec.eq_of_getLsbD_eq
  intro i inside
  rw [← BitVec.testBit_toNat, UInt32.toNat_toBitVec, rotateRight,
    Word.testBit_rotateLeft w (by omega) (by omega) inside, BitVec.getLsbD_rotateRight, Nat.mod_eq_of_lt short, rest]
  by_cases low : i < 32 - k.toNat
  · have turned : i + (32 - (32 - k.toNat)) = k.toNat + i := by omega
    simp [low, turned, ← BitVec.testBit_toNat]
  · simp [low, inside, ← BitVec.testBit_toNat]

theorem toBitVec_shiftRight (w : Word) {k : Word} (short : k.toNat < 32) : (w >>> k).toBitVec = w.toBitVec >>> k.toNat := by
  have amount : (k.toBitVec % 32).toNat = k.toNat := Nat.mod_eq_of_lt short
  rw [UInt32.toBitVec_shiftRight, BitVec.ushiftRight_eq', amount]

theorem toBitVec_largeSigma (w : Word) {i j k : Word} (first : IsTurn i) (second : IsTurn j) (third : IsTurn k) :
    (largeSigma i j k w).toBitVec = SecureHash.largeSigma i.toNat j.toNat k.toNat w.toBitVec := by
  rw [largeSigma, UInt32.toBitVec_xor, UInt32.toBitVec_xor, toBitVec_rotateRight w first,
    toBitVec_rotateRight w second, toBitVec_rotateRight w third, SecureHash.largeSigma]

theorem toBitVec_smallSigma (w : Word) {i j k : Word} (first : IsTurn i) (second : IsTurn j) (short : k.toNat < 32) :
    (smallSigma i j k w).toBitVec = SecureHash.smallSigma i.toNat j.toNat k.toNat w.toBitVec := by
  rw [smallSigma, UInt32.toBitVec_xor, UInt32.toBitVec_xor, toBitVec_rotateRight w first,
    toBitVec_rotateRight w second, toBitVec_shiftRight w short, SecureHash.smallSigma]

/-! ## The schedule -/

/-- A word of the schedule of a block of bytes. -/
def scheduled (block : List UInt8) (t : Nat) : Word :=
  UInt32.ofBitVec (SecureHash.schedule (BitRow.ofBytes block) t)

theorem wordsOf_eq {k : Nat} {bytes : List UInt8} (length : bytes.length = 4 * k) :
    wordsOf bytes = (List.range k).map fun j => UInt32.ofBitVec (SecureHash.word (BitRow.ofBytes bytes) j) := by
  induction k generalizing bytes with
  | zero =>
    obtain rfl := List.length_eq_zero_iff.mp length
    rfl
  | succ k ih =>
    match bytes with
    | b0 :: b1 :: b2 :: b3 :: rest =>
      have front : (BitRow.ofBytes [b0, b1, b2, b3]).length = 32 := BitRow.length_ofBytes _
      have split : BitRow.ofBytes (b0 :: b1 :: b2 :: b3 :: rest) =
          BitRow.ofBytes [b0, b1, b2, b3] ++ BitRow.ofBytes rest := BitRow.ofBytes_append [b0, b1, b2, b3] rest
      have first : bigEndian b0 b1 b2 b3 =
          UInt32.ofBitVec (BitVec.ofNat 32 (BitRow.toNat (BitRow.ofBytes [b0, b1, b2, b3]))) := by
        rw [← BitRow.toNat_bigEndian]
        exact UInt32.toNat_inj.mp (Nat.mod_eq_of_lt (UInt32.toNat_lt _)).symm
      have later : wordsOf rest = (List.range k).map fun j => UInt32.ofBitVec (SecureHash.word (BitRow.ofBytes rest) j) :=
        ih (by simpa [Nat.mul_succ] using length)
      rw [wordsOf, split, List.range_succ_eq_map, List.map_cons, List.map_map, SecureHash.word_append_zero front, first,
        later]
      exact congrArg _ (List.map_congr_left fun j _ =>
        congrArg UInt32.ofBitVec (SecureHash.word_append_succ front _ j).symm)

/-- Each word of the schedule that is added is the one of the standard. -/
theorem extend_scheduled (block : List UInt8) {n : Nat} (started : 16 ≤ n) (count : Nat) :
    extend count ((List.range n).map (scheduled block)).reverse =
      ((List.range (n + count)).map (scheduled block)).reverse := by
  induction count generalizing n with
  | zero => rfl
  | succ count ih =>
    -- The words stand last first, so the last but `i` is `i + 1` before the new one.
    have back (i : Nat) (inside : i < n) :
        ((((List.range n).map (scheduled block)).reverse)[i]?).getD 0 = scheduled block (n - 1 - i) := by
      rw [List.getElem?_reverse (by simpa using inside)]
      have place : n - 1 - i < n := by omega
      simp [place]
    have added : smallSigma 17 19 10 (scheduled block (n - 1 - 1)) + scheduled block (n - 1 - 6) +
        smallSigma 7 18 3 (scheduled block (n - 1 - 14)) + scheduled block (n - 1 - 15) = scheduled block n := by
      apply UInt32.toBitVec_inj.mp
      rw [UInt32.toBitVec_add, UInt32.toBitVec_add, UInt32.toBitVec_add,
        toBitVec_smallSigma _ (by decide) (by decide) (by decide),
        toBitVec_smallSigma _ (by decide) (by decide) (by decide)]
      change _ = SecureHash.schedule (BitRow.ofBytes block) n
      rw [SecureHash.schedule, if_neg (by omega), show n - 2 = n - 1 - 1 by omega, show n - 7 = n - 1 - 6 by omega,
        show n - 15 = n - 1 - 14 by omega, show n - 16 = n - 1 - 15 by omega]
      rfl
    rw [extend]
    dsimp only
    rw [back 1 (by omega), back 6 (by omega), back 14 (by omega), back 15 (by omega), added,
      show n + (count + 1) = n + 1 + count by omega, ← ih (by omega), List.range_succ, List.map_append,
      List.reverse_append]
    rfl

/-! ## Rounds -/

/-- The words of a chaining value as those of a hash value. -/
def Chain.variables (v : Chain) : SecureHash.Variables :=
  ⟨v.a.toBitVec, v.b.toBitVec, v.c.toBitVec, v.d.toBitVec, v.e.toBitVec, v.f.toBitVec, v.g.toBitVec, v.h.toBitVec⟩

theorem variables_initial : Chain.initial.variables = SecureHash.initial := by
  have words := SecureHash.words_initial
  simp only [Chain.words, List.range_succ, List.range_zero, List.nil_append, List.cons_append, List.map_cons, List.map_nil,
    List.cons.injEq, and_true] at words
  obtain ⟨a, b, c, d, e, f, g, h⟩ := words
  rw [Chain.variables, a, b, c, d, e, f, g, h]
  rfl

theorem variables_add (v w : Chain) : (v.add w).variables = v.variables.add w.variables := rfl

theorem variables_round (v : Chain) (constant input : Word) :
    (v.round (constant + input)).variables = SecureHash.round v.variables constant.toBitVec input.toBitVec := by
  have sigma1 : (largeSigma 6 11 25 v.e).toBitVec = SecureHash.largeSigma 6 11 25 v.e.toBitVec :=
    toBitVec_largeSigma v.e (by decide) (by decide) (by decide)
  have sigma0 : (largeSigma 2 13 22 v.a).toBitVec = SecureHash.largeSigma 2 13 22 v.a.toBitVec :=
    toBitVec_largeSigma v.a (by decide) (by decide) (by decide)
  -- Here the constant and the word of the schedule are one term; in the standard they are added one after the other.
  have t1 : (v.h + largeSigma 6 11 25 v.e + ((v.e &&& v.f) ^^^ (~~~v.e &&& v.g)) + (constant + input)).toBitVec =
      v.h.toBitVec + SecureHash.largeSigma 6 11 25 v.e.toBitVec +
        SecureHash.choose v.e.toBitVec v.f.toBitVec v.g.toBitVec + constant.toBitVec + input.toBitVec := by
    rw [← UInt32.add_assoc, ← sigma1]
    rfl
  have t2 : (largeSigma 2 13 22 v.a + ((v.a &&& v.b) ^^^ (v.a &&& v.c) ^^^ (v.b &&& v.c))).toBitVec =
      SecureHash.largeSigma 2 13 22 v.a.toBitVec + SecureHash.majority v.a.toBitVec v.b.toBitVec v.c.toBitVec := by
    rw [← sigma0]
    rfl
  simp only [SecureHash.round, Chain.variables]
  rw [← t1, ← t2]
  rfl

theorem variables_foldl_round (v : Chain) (block : List UInt8) (n : Nat) :
    (((List.range n).map fun t => UInt32.ofBitVec (SecureHash.roundConstant t) + scheduled block t).foldl
      Chain.round v).variables = SecureHash.rounds (BitRow.ofBytes block) v.variables n := by
  induction n with
  | zero => rfl
  | succ n ih =>
    rw [List.range_succ, List.map_append, List.foldl_append, SecureHash.rounds, ← ih]
    exact variables_round ..

/-- Compressing a block takes the hash value over it. -/
theorem variables_compress (v : Chain) {block : List UInt8} (length : block.length = 64) :
    (compress v block).variables =
      (SecureHash.rounds (BitRow.ofBytes block) v.variables 64).add v.variables := by
  have first : wordsOf block = (List.range 16).map (scheduled block) := by
    rw [wordsOf_eq (k := 16) length]
    refine List.map_congr_left fun j inside => ?_
    rw [scheduled, SecureHash.schedule, if_pos (List.mem_range.mp inside)]
  have inputs : List.zipWith (· + ·) roundConstants (extend 48 (wordsOf block).reverse).reverse =
      (List.range 64).map fun t => UInt32.ofBitVec (SecureHash.roundConstant t) + scheduled block t := by
    rw [first, extend_scheduled block (by decide), List.reverse_reverse, SecureHash.roundConstants_eq,
      List.zipWith_map, List.zipWith_self]
  rw [compress, inputs, variables_add, variables_foldl_round]
  simp only [SecureHash.Variables.add, BitVec.add_comm]

end Digest

end SeedStream
