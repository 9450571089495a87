import SeedStream.Proofs.Lookups

/-!
# Reading back

A file that was written is found where it was written, with the bytes that were written (`read_write`): the way to
it leads through folders only, and a file takes the place of no folder.
-/

namespace SeedStream.FileTree

/-- An entry in a place that is no folder does not block a way that was open before. -/
theorem walk_put {t : FileTree} {place : Location} (free : t.get? place ≠ some .folder) (entry : Entry)
    {start found : Location} {parts : List Text} (way : t.walk start parts = .ok found) :
    (t.put place entry).walk start parts = .ok found := by
  fun_induction walk t start parts with
  | case1 start => exact way
  | case2 => cases way
  | case3 => cases way
  | case4 => cases way
  | case5 start part rest folder short ih =>
    have apart : start ≠ place := by
      rintro rfl
      exact free folder
    rw [walk, get?_put_of_ne apart, folder]
    dsimp only
    rw [if_neg short]
    exact ih way

theorem locate_put {t : FileTree} {place : Location} (free : t.get? place ≠ some .folder) (entry : Entry)
    {p : Path} {found : Location} (located : t.locate p = .ok found) : (t.put place entry).locate p = .ok found := by
  obtain ⟨fits, way⟩ := locate_eq_ok_iff.mp located
  exact locate_eq_ok_iff.mpr ⟨fits, walk_put free entry way⟩

/-- A file is written to a place that is no folder, and nowhere else. -/
theorem write_eq_ok {t after : FileTree} {p : Path} {bytes : List UInt8} (written : t.write p bytes = .ok after) :
    ∃ place, t.locate p = .ok place ∧ t.get? place ≠ some .folder ∧ after = t.put place (.file bytes) := by
  obtain ⟨place, located, put⟩ := bind_eq_ok_iff.mp written
  split at put
  case h_1 => cases put
  case h_2 free =>
    cases put
    exact ⟨place, located, free, rfl⟩

theorem read_eq_ok_iff {t : FileTree} {p : Path} {bytes : List UInt8} :
    t.read p = .ok bytes ↔ ∃ place, t.locate p = .ok place ∧ t.get? place = some (.file bytes) := by
  rw [read, bind_eq_ok_iff]
  refine exists_congr fun place => and_congr_right fun _ => ?_
  split
  case h_1 found held => rw [held, Except.ok.injEq, Option.some.injEq, Entry.file.injEq]
  case h_2 held | h_3 held =>
    rw [held]
    exact ⟨nofun, nofun⟩

theorem read_write {t after : FileTree} {p : Path} {bytes : List UInt8} (written : t.write p bytes = .ok after) :
    after.read p = .ok bytes := by
  obtain ⟨place, located, free, rfl⟩ := write_eq_ok written
  -- The root is a folder, so nothing was written there.
  have proper : place ≠ [] := by
    rintro rfl
    exact free rfl
  exact read_eq_ok_iff.mpr ⟨place, locate_put free _ located, get?_put proper _⟩

end SeedStream.FileTree
