import Mathlib.Data.LawfulXor.Basic
import Mathlib.Logic.Function.Iterate
import SeedStream.Proofs.WordMaps

/-!
# Superposition of states

States have an exclusive or, word by word, and a step goes through it: the state after a sum of two is
the sum of the states after them. Nothing but the zero state leads to zero, so a run that starts
anywhere else never gets there.
-/

namespace SeedStream.State

instance : Zero State := ⟨zero⟩

instance : XorOp State := ⟨fun s t => ⟨s.s0 ^^^ t.s0, s.s1 ^^^ t.s1, s.s2 ^^^ t.s2, s.s3 ^^^ t.s3⟩⟩

theorem xor_def (s t : State) :
    s ^^^ t = ⟨s.s0 ^^^ t.s0, s.s1 ^^^ t.s1, s.s2 ^^^ t.s2, s.s3 ^^^ t.s3⟩ := rfl

instance : LawfulXor State where
  xor_assoc a b c := by simp only [xor_def, UInt32.xor_assoc]
  xor_self a := by
    simp only [xor_def, UInt32.xor_self]
    rfl
  xor_zero a := by
    change (⟨a.s0 ^^^ 0, a.s1 ^^^ 0, a.s2 ^^^ 0, a.s3 ^^^ 0⟩ : State) = a
    simp only [UInt32.xor_zero]
  xor_comm a b := by simp only [xor_def, UInt32.xor_comm]

instance : Std.Associative fun s t : State => s ^^^ t := ⟨LawfulXor.xor_assoc⟩

instance : Std.Commutative fun s t : State => s ^^^ t := ⟨LawfulXor.xor_comm⟩

theorem next_xor (s t : State) : (s ^^^ t).next = s.next ^^^ t.next := by
  simp only [next, xor_def, mk.injEq]
  refine ⟨by ac_rfl, by ac_rfl, ?_, ?_⟩
  · rw [UInt32.shiftLeft_xor]
    ac_rfl
  · rw [← Word.rotateLeft_xor _ _ (by decide) (by decide)]
    congr 1
    ac_rfl

theorem next_eq_zero_iff {s : State} : s.next = zero ↔ s = zero := by
  constructor
  · intro leads
    simp only [next, zero, mk.injEq] at leads
    obtain ⟨first, second, third, fourth⟩ := leads
    have turned : s.s3 ^^^ s.s1 = 0 :=
      Word.rotateLeft_injective 11 (by decide) (by decide) (fourth.trans (by decide))
    have s0 : s.s0 = 0 := by simpa [turned] using first
    have s2 : s.s2 = s.s1 := by simpa [s0, eq_comm] using second
    have s1 : s.s1 = 0 := by
      have shifted : s.s1 = s.s1 <<< 9 := by simpa [s0, s2] using third
      have value := congrArg UInt32.toNat shifted
      rw [UInt32.toNat_shiftLeft, Nat.shiftLeft_eq] at value
      have bound := s.s1.toNat_lt
      apply UInt32.toNat_inj.mp
      -- `511` times the word is a multiple of `2 ^ 32`
      change s.s1.toNat = s.s1.toNat * 512 % 4294967296 at value
      change s.s1.toNat = 0
      omega
    have s3 : s.s3 = 0 := by simpa [s1] using turned
    calc s = ⟨s.s0, s.s1, s.s2, s.s3⟩ := rfl
      _ = zero := by rw [s0, s1, s2, s1, s3, zero]
  · rintro rfl
    exact next_zero

theorem next_injective : Function.Injective next := by
  intro s t same
  have leads : (s ^^^ t).next = zero := by
    rw [next_xor, same]
    exact LawfulXor.xor_self t.next
  have equal : s ^^^ t = 0 := next_eq_zero_iff.mp leads
  calc s = s ^^^ t ^^^ t := (xor_cancel_right s t).symm
    _ = t := by rw [equal, zero_xor]

/-! ## Runs -/

theorem advance_eq_iterate (n : Nat) (s : State) : advance n s = next^[n] s := by
  induction n generalizing s with
  | zero => rfl
  | succ n ih => exact ih s.next

theorem advance_next (n : Nat) (s : State) : advance n s.next = (advance n s).next := by
  induction n generalizing s with
  | zero => rfl
  | succ n ih => exact ih s.next

theorem advance_add (m n : Nat) (s : State) : advance (m + n) s = advance m (advance n s) := by
  simp only [advance_eq_iterate, Function.iterate_add_apply]

theorem advance_eq_zero_iff {n : Nat} {s : State} : advance n s = zero ↔ s = zero := by
  induction n generalizing s with
  | zero => rfl
  | succ n ih => exact ih.trans next_eq_zero_iff

end SeedStream.State
