import Mathlib.Data.Fintype.EquivFin
import SeedStream.Proofs.WordMaps

/-!
# The words of a seeded state

Each word of a seeded state is a scrambling of the seed that takes no two words to one, and so one that
reaches every word. Any of the four words therefore gives the seed back modulo `2 ^ 32`. Within one state
the words lie different distances beyond the seed before they are scrambled, so no two of them agree.
-/

namespace SeedStream

/-- A map of words that takes no two to one reaches every word. -/
theorem Word.surjective_of_injective {f : Word → Word} (injective : Function.Injective f) :
    Function.Surjective f := by
  have finite : Finite Word := Finite.of_injective UInt32.toFin fun _ _ same => UInt32.toFin_inj.mp same
  exact Finite.surjective_of_injective injective

theorem Seed.slot_surjective (k : Word) : Function.Surjective (slot · k) :=
  Word.surjective_of_injective fun _ _ => slot_inj.mp

namespace State

theorem words_ofSeed (seed : Int) : (ofSeed seed).words = [1, 2, 3, 4].map (Seed.slot (Word.ofInt seed)) := rfl

theorem get_words_ofSeed (seed : Int) (i : Fin 4) :
    (ofSeed seed).words.get i = Seed.slot (Word.ofInt seed) ([1, 2, 3, 4].get i) :=
  match i with
  | 0 | 1 | 2 | 3 => rfl

theorem nodup_words_ofSeed (seed : Int) : (ofSeed seed).words.Nodup := by
  have apart : ([1, 2, 3, 4] : List Word).Nodup := by decide
  rw [words_ofSeed]
  exact apart.map fun _ _ => Seed.slot_inj_distance.mp

/-- In each of its four places a seeded state has the same word as another exactly if the seeds are congruent
    modulo `2 ^ 32`, and every word stands there for some seed. The four words of one state differ, so no more
    than one of them is zero. -/
theorem seed_of_each_word :
    (∀ (a b : Int) (i : Fin 4),
        (ofSeed a).words.get i = (ofSeed b).words.get i ↔ a ≡ b [ZMOD 2 ^ 32]) ∧
      (∀ (i : Fin 4) (w : Word), ∃ seed : Int, (ofSeed seed).words.get i = w) ∧
      ∀ seed : Int, (ofSeed seed).words.Nodup ∧ (ofSeed seed).words.count 0 ≤ 1 := by
  refine ⟨fun a b i => ?_, fun i w => ?_, fun seed => ⟨nodup_words_ofSeed seed, ?_⟩⟩
  · rw [get_words_ofSeed, get_words_ofSeed, Seed.slot_inj, Word.ofInt_eq_iff_modEq]
  · obtain ⟨seed, reached⟩ := Seed.slot_surjective ([1, 2, 3, 4].get i) w
    refine ⟨seed.toNat, ?_⟩
    rw [get_words_ofSeed, Word.ofInt_toNat]
    exact reached
  · exact List.nodup_iff_count_le_one.mp (nodup_words_ofSeed seed) 0

end State

end SeedStream
