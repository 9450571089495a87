import SeedStream.Proofs.FileReadBack
import SeedStream.Proofs.JsonRoundTrip
import SeedStream.Proofs.ManifestEntries
import SeedStream.Proofs.ReferenceStreams
import SeedStream.Proofs.TextFiles

/-!
# Manifests and their checks

A manifest that was written holds the references of its seeds, and its text is read as this content (`checkBytes_text`).
Each reference says of its seed what is true (`statement?_describe`), so the check verifies every entry
(`check_of_write`).
-/

namespace SeedStream

open Json Text

/-! ## References -/

namespace Reference

theorem makeAll_eq_ok {seeds : List Int} {count : Int} {references : List Reference}
    (made : makeAll seeds count = .ok references) :
    (∀ seed ∈ seeds, seed ≠ 0) ∧ references = seeds.map fun seed => describe seed count := by
  induction seeds generalizing references with
  | nil => exact ⟨nofun, (Except.ok.inj made).symm⟩
  | cons seed rest ih =>
    rw [makeAll, List.mapM_cons] at made
    obtain ⟨r, first, more⟩ := bind_eq_ok_iff.mp made
    obtain ⟨rs, others, same⟩ := bind_eq_ok_iff.mp more
    cases same
    obtain ⟨proper, rfl⟩ := make_eq_ok_iff.mp first
    obtain ⟨all, rfl⟩ := ih others
    exact ⟨List.forall_mem_cons.mpr ⟨proper, all⟩, rfl⟩

theorem allOfValues_int (seeds : List Int) (count : Int) :
    allOfValues (.list (seeds.map .int)) (.int count) = makeAll seeds count := by
  have each : (fun seed => ofValues seed (.int count)) ∘ Value.int = fun seed => make seed count :=
    funext fun seed => ofValues_int seed count
  change (seeds.map Value.int).mapM _ = _
  rw [List.mapM_map, each, makeAll]

theorem isPlainText_hex (w : Word) : IsPlainText (ofString (Word.hex w)) := by
  refine ⟨(Word.hex w).toList, rfl, fun c member => ?_⟩
  have letter := Word.isAlphanum_of_mem_hex w c member
  have range := Integer.range_of_isAlphanum letter
  refine ⟨by omega, ?_, ?_⟩
  · rintro rfl
    cases letter
  · rintro rfl
    cases letter

theorem simple_words (n : Nat) (ws : List Word) : Simple (n + 1) (.ofStrings (ws.map Word.hex)) := by
  refine .list fun v member => ?_
  obtain ⟨s, inside, rfl⟩ := List.mem_map.mp member
  obtain ⟨w, -, rfl⟩ := List.mem_map.mp inside
  exact .text (isPlainText_hex w)

/-- A reference is written as it is read if its seed is short enough to be written. -/
theorem simple_describe {seed : Int} (writable : Integer.isWritable seed = true) (count : Int) (n : Nat) :
    Simple (n + 2) (describe seed count).toValue := by
  refine .object_of_strings ["seed", "state", "outputs"] rfl (by decide) (by decide) ?_
  simp only [List.forall_mem_cons]
  exact ⟨.int writable, simple_words n _, simple_words n _, nofun⟩

end Reference

namespace Manifest

/-! ## The text of a manifest -/

variable {seeds : List Int} {count : Int}

theorem simple_content (writable : ∀ seed ∈ seeds, Integer.isWritable seed = true) (n : Nat) :
    Simple (n + 4) (content (seeds.map fun seed => Reference.describe seed count)) := by
  refine .object_of_strings ["algorithm", "entries"] rfl (by decide) (by decide) ?_
  simp only [List.forall_mem_cons]
  refine ⟨.text (isPlainText_ofString (by decide)), .list fun v member => ?_, nofun⟩
  obtain ⟨r, inside, rfl⟩ := List.mem_map.mp member
  obtain ⟨seed, chosen, rfl⟩ := List.mem_map.mp inside
  exact Reference.simple_describe (writable seed chosen) count n

/-- The lines of a simple value, one more at their end, are read from a file as the value. -/
theorem read_written {v : Value} (simple : Simple maxLevels v) :
    decodeUtf8 (encodeUtf8 (pretty v ++ ['\n'])) = .ok (pretty v ++ ['\n']) ∧
      parse (unifyNewlines (pretty v ++ ['\n'])) = .ok v := by
  have written : ∀ c ∈ pretty v ++ ['\n'], IsWritten c :=
    List.forall_mem_append.mpr ⟨isWritten_of_mem_write Layout.airy_spread simple 0,
      List.forall_mem_singleton.mpr (by decide)⟩
  refine ⟨decodeUtf8_encodeUtf8 fun c member => (written c member).1, ?_⟩
  rw [unifyNewlines_eq_self fun member => (written _ member).2 rfl, parse_pretty simple]

theorem checkBytes_text (writable : ∀ seed ∈ seeds, Integer.isWritable seed = true) :
    checkBytes (encodeUtf8 (text (seeds.map fun seed => Reference.describe seed count))) =
      checkContent (content (seeds.map fun seed => Reference.describe seed count)) := by
  -- Four levels are used: the manifest, its entries, an entry and a list of words in it.
  have simple : Simple maxLevels (content (seeds.map fun seed => Reference.describe seed count)) :=
    simple_content writable 981
  obtain ⟨decoded, read⟩ := read_written simple
  rw [checkBytes, text, decoded]
  simp only [read]
  rfl

/-! ## The check -/

theorem statement?_toValue {r : Reference} {state outputs : List Int}
    (told : (Value.ofStrings r.state).words? = some state) (listed : (Value.ofStrings r.outputs).words? = some outputs) :
    statement? r.toValue = some ⟨r.seed, outputs, some state⟩ := by
  -- The fields are found by their names, without a look at the words in them.
  have found : statement? r.toValue = (Value.ofStrings r.outputs).words?.bind fun outputs =>
      ((Value.ofStrings r.state).words?.map some).bind fun state => some ⟨r.seed, outputs, state⟩ := rfl
  rw [found, listed, told]
  rfl

/-- A reference says of its seed what is true. -/
theorem statement?_describe (seed count : Int) :
    ∃ s, statement? (Reference.describe seed count).toValue = some s ∧ s.seed = seed ∧ s.IsTrue := by
  refine ⟨_, statement?_toValue (Value.words?_hex _) (Value.words?_hex _), rfl, ?_, ?_⟩
  · simp [Reference.describe]
  · rintro words ⟨⟩
    rfl

theorem isProper_describe {seed : Int} (proper : seed ≠ 0) (count : Int) :
    IsProper (Reference.describe seed count).toValue := by
  obtain ⟨s, said, rfl, -⟩ := statement?_describe seed count
  exact .inr ⟨s, said, proper⟩

theorem verdictOf_describe (seed count : Int) : verdictOf (Reference.describe seed count).toValue = .verified := by
  obtain ⟨s, said, -, true⟩ := statement?_describe seed count
  rw [verdictOf, said]
  exact if_pos true

theorem checkContent_content (proper : ∀ seed ∈ seeds, seed ≠ 0) :
    checkContent (content (seeds.map fun seed => Reference.describe seed count)) =
      .ok ⟨seeds.length, seeds.length, [], []⟩ := by
  rw [content]
  -- The entries get a name, so that they are found without a look at the references in them.
  generalize listed : (seeds.map fun seed => Reference.describe seed count).map Reference.toValue = entries
  have each : ∀ entry ∈ entries, IsProper entry ∧ verdictOf entry = .verified := by
    subst listed
    simp only [List.forall_mem_map]
    exact fun seed member => ⟨isProper_describe (proper seed member) count, verdictOf_describe seed count⟩
  have length : entries.length = seeds.length := by simp [← listed]
  have verdicts : (entries.map fun entry => (entry, verdictOf entry)) = entries.map fun entry => (entry, .verified) :=
    List.map_congr_left fun entry member => by rw [(each entry member).2]
  rw [checkContent_of_isProper rfl fun entry member => (each entry member).1, verdicts, reportOf, ← length]
  simp

/-! ## Written manifests -/

variable {p : Path} {t after : FileTree}

/-- A manifest that was written has its text where it was written, and all its seeds could be. -/
theorem place_eq_ok {references : List Reference} {p : Path} {t after : FileTree}
    (placed : place references p t = (.ok (), after)) :
    (∀ r ∈ references, Integer.isWritable r.seed = true) ∧
      ∃ middle : FileTree, middle.write p (encodeUtf8 (text references)) = .ok after := by
  -- The folder may be made even if a seed cannot be written, but then nothing is placed.
  rw [place] at placed
  split at placed
  case h_1 => cases placed
  case h_2 middle _ =>
    split at placed
    case isFalse => cases placed
    case isTrue writable =>
      refine ⟨List.all_eq_true.mp writable, middle, ?_⟩
      split at placed
      case h_1 => cases placed
      case h_2 wrote =>
        cases placed
        exact wrote

theorem writeValues_int (p : Path) (seeds : List Int) (count : Int) (t : FileTree) :
    writeValues p (.list (seeds.map .int)) (.int count) t = write p seeds count t := by
  rw [writeValues, Reference.allOfValues_int, write]

/-- A written manifest is the file of its references, which none of the seeds was refused. -/
theorem write_eq_ok (written : write p seeds count t = (.ok (), after)) :
    (∀ seed ∈ seeds, seed ≠ 0 ∧ Integer.isWritable seed = true) ∧
      after.read p = .ok (encodeUtf8 (text (seeds.map fun seed => Reference.describe seed count))) := by
  rw [write] at written
  split at written
  case h_1 => cases written
  case h_2 references made =>
    obtain ⟨proper, rfl⟩ := Reference.makeAll_eq_ok made
    obtain ⟨writable, middle, wrote⟩ := place_eq_ok written
    refine ⟨fun seed member => ⟨proper seed member, ?_⟩, FileTree.read_write wrote⟩
    exact writable _ (List.mem_map_of_mem member)

/-- The check of a written manifest finds that every entry is verified, wherever it is read. -/
theorem check_of_write (written : write p seeds count t = (.ok (), after)) {q : Path}
    (same : after.read q = after.read p) : check q after = .ok ⟨seeds.length, seeds.length, [], []⟩ := by
  obtain ⟨fit, found⟩ := write_eq_ok written
  rw [check, same, found]
  simp only [bind, Except.bind]
  rw [checkBytes_text fun seed member => (fit seed member).2,
    checkContent_content fun seed member => (fit seed member).1]

end Manifest

end SeedStream
