import SeedStream.FileTree
import SeedStream.Proofs.Results

/-!
# Paths looked up

A path leads somewhere exactly if its text is fit to be looked up and its names lead there (`locate_eq_ok_iff`). A
text is fit if it is short and each of its letters may stand in it, whatever letters are around it.
-/

namespace SeedStream

/-! ## Letters of names -/

namespace Text

/-- The bytes of a letter in the name of a file, if it has any. -/
def letterBytes? : Letter → Option (List UInt8)
  | .char c => some (charBytes c)
  | .half u => (nameByte? (.half u)).map fun b => [b]

/-- The bytes of a letter in the name of a file. -/
def letterBytes (l : Letter) : List UInt8 :=
  (letterBytes? l).getD []

/-- A text has bytes in the name of a file exactly if its letters have, and they are those of the letters. -/
theorem nameBytes_eq_ok_iff {t : Text} {bytes : List UInt8} :
    nameBytes t = .ok bytes ↔ (∀ l ∈ t, (letterBytes? l).isSome = true) ∧ bytes = t.flatMap letterBytes := by
  -- The position counts for faults only.
  have from' (position : Nat) : bytesFrom nameByte? position t = .ok bytes ↔
      (∀ l ∈ t, (letterBytes? l).isSome = true) ∧ bytes = t.flatMap letterBytes := by
    induction t generalizing position bytes with
    | nil => exact ⟨fun same => ⟨nofun, (Except.ok.inj same).symm⟩, fun both => congrArg Except.ok both.2.symm⟩
    | cons l rest ih =>
      have whole (front : List UInt8) (has : letterBytes? l = some front) :
          (bytesFrom nameByte? (position + 1) rest).map (front ++ ·) = .ok bytes ↔
            (∀ m ∈ l :: rest, (letterBytes? m).isSome = true) ∧ bytes = (l :: rest).flatMap letterBytes := by
        rw [map_eq_ok_iff, List.forall_mem_cons, has, List.flatMap_cons, letterBytes, has]
        constructor
        · rintro ⟨back, read, rfl⟩
          obtain ⟨all, rfl⟩ := (ih (position + 1)).mp read
          exact ⟨⟨rfl, all⟩, rfl⟩
        · rintro ⟨⟨-, all⟩, rfl⟩
          exact ⟨_, (ih (position + 1)).mpr ⟨all, rfl⟩, rfl⟩
      cases l with
      | char c => exact whole _ rfl
      | half u =>
        rw [bytesFrom]
        cases has : nameByte? (.half u) with
        | some b => exact whole [b] (by rw [letterBytes?, has]; rfl)
        | none =>
          have without : letterBytes? (.half u) = none := by rw [letterBytes?, has]; rfl
          refine ⟨fun same => ?_, fun both => ?_⟩
          · cases same
          · have has := both.1 _ List.mem_cons_self
            rw [without] at has
            cases has
  exact from' 0

end Text

namespace FileTree

open Text

/-- A letter that may stand in a text that is looked up. -/
def MayStand (l : Letter) : Prop :=
  (letterBytes? l).isSome = true ∧ 0 ∉ letterBytes l

instance : DecidablePred MayStand :=
  fun l => inferInstanceAs (Decidable ((letterBytes? l).isSome = true ∧ 0 ∉ letterBytes l))

/-- The number of bytes of a text that is looked up. -/
def byteSize (text : Text) : Nat :=
  (text.flatMap letterBytes).length

theorem byteSize_append (a b : Text) : byteSize (a ++ b) = byteSize a + byteSize b := by
  rw [byteSize, List.flatMap_append, List.length_append]
  rfl

theorem lookupBytes_eq_ok_iff {text : Text} {bytes : List UInt8} :
    lookupBytes text = .ok bytes ↔ (∀ l ∈ text, MayStand l) ∧ bytes = text.flatMap letterBytes := by
  have split : (∀ l ∈ text, MayStand l) ↔
      (∀ l ∈ text, (letterBytes? l).isSome = true) ∧ 0 ∉ text.flatMap letterBytes := by
    simp only [MayStand, List.mem_flatMap, not_exists, not_and]
    exact ⟨fun both => ⟨fun l member => (both l member).1, fun l member => (both l member).2⟩,
      fun both l member => ⟨both.1 l member, both.2 l member⟩⟩
  rw [split, lookupBytes]
  cases named : nameBytes text with
  | error e =>
    have unnamed := mt (fun all => nameBytes_eq_ok_iff.mpr ⟨all, rfl⟩) (by rw [named]; nofun)
    exact ⟨nofun, fun both => absurd both.1.1 unnamed⟩
  | ok found =>
    obtain ⟨all, rfl⟩ := nameBytes_eq_ok_iff.mp named
    dsimp only
    split
    case isTrue zero => exact ⟨nofun, fun both => absurd (List.contains_iff_mem.mp zero) both.1.2⟩
    case isFalse proper =>
      refine ⟨fun same => ⟨⟨all, mt List.contains_iff_mem.mpr proper⟩, (Except.ok.inj same).symm⟩, fun both => ?_⟩
      rw [both.2]

/-- The text is fit to be looked up. -/
def Fits (text : Text) : Prop :=
  (∀ l ∈ text, MayStand l) ∧ byteSize text ≤ maxPathBytes

/-- A path leads somewhere if its text is fit and its names can be gone through. -/
theorem locate_eq_ok_iff {t : FileTree} {p : Path} {place : Location} :
    t.locate p = .ok place ↔ Fits p.text ∧ t.walk [] (Path.under t.working p).parts = .ok place := by
  rw [locate, Fits, bind_eq_ok_iff]
  constructor
  · rintro ⟨bytes, looked, found⟩
    obtain ⟨letters, rfl⟩ := lookupBytes_eq_ok_iff.mp looked
    split at found
    case isTrue => cases found
    case isFalse short => exact ⟨⟨letters, Nat.not_lt.mp short⟩, mapError_eq_ok_iff.mp found⟩
  · rintro ⟨⟨letters, short⟩, way⟩
    refine ⟨_, lookupBytes_eq_ok_iff.mpr ⟨letters, rfl⟩, ?_⟩
    have fits : ¬ maxPathBytes < (p.text.flatMap letterBytes).length := Nat.not_lt.mpr short
    rw [if_neg fits]
    exact mapError_eq_ok_iff.mpr way

end FileTree

end SeedStream
