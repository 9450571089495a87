import SeedStream.Output.Files
import SeedStream.Proofs.LaneRows
import SeedStream.Proofs.Manifests
import SeedStream.Proofs.NormalTexts
import SeedStream.Proofs.Results

/-!
# Refused data

Data are looked at before the file tree is. A sample with a number that no word holds, a format of an unknown
name and a row of seeds with zero in it are refused wherever in the data the fault stands, and the tree is then
the one that there was: no file is written, made or emptied, and no folder is made above it.
-/

namespace SeedStream

variable {p : Path} {t : FileTree}

/-! ## Samples -/

/-- A number that no word holds. -/
def Output.isOutside (i : Int) : Bool :=
  i < 0 || 2 ^ 32 ≤ i

/-- The failure of a number that no word holds: one beyond 64 bits is not named. -/
def Output.outsideFailure (i : Int) : Failure :=
  .range (if Value.isLong i then .number i "uint32" else .long)

namespace Output

theorem isOutside_iff {i : Int} : isOutside i = true ↔ ¬ (0 ≤ i ∧ i < 2 ^ 32) := by
  simp only [isOutside, Bool.or_eq_true, decide_eq_true_eq]
  omega

theorem asWordNumber_of_outside {i : Int} (outside : isOutside i = true) :
    (Value.int i).asWordNumber = .error (outsideFailure i) := by
  have beyond : ¬ (0 ≤ i ∧ i < 0x100000000) := isOutside_iff.mp outside
  rw [Value.asWordNumber, Value.toInteger_int, ok_bind, if_neg beyond, outsideFailure]
  split <;> rfl

theorem asWordNumber_of_not_outside {i : Int} (inside : isOutside i = false) :
    (Value.int i).asWordNumber = .ok i := by
  refine Value.asWordNumber_int (not_not.mp fun beyond => ?_)
  rw [isOutside_iff.mpr beyond] at inside
  cases inside

/-- Integers are refused as a sample for the first of them that no word holds. -/
theorem sample_eq_error {values : List Int} {i : Int} (first : values.find? isOutside = some i) :
    sample (.list (values.map .int)) = .error (outsideFailure i) := by
  obtain ⟨outside, before, later, rfl, inside⟩ := List.find?_eq_some_iff_append.mp first
  have refused : ((before ++ i :: later).map Value.int).mapM Value.asWordNumber = .error (outsideFailure i) := by
    rw [List.map_append, List.map_cons]
    refine mapM_eq_error (fun v member => ?_) (asWordNumber_of_outside outside)
    obtain ⟨b, early, rfl⟩ := List.mem_map.mp member
    exact ⟨b, asWordNumber_of_not_outside (by simpa using inside b early)⟩
  rw [sample, Value.row_ints, ok_bind, refused]
  rfl

end Output

/-! ## Formats -/

/-- The name of no format, with small letters and without the blanks around it. -/
def Format.IsUnknown (v : Value) : Prop :=
  ∀ f : Format, Text.normal v.plain ≠ Text.ofString f.text

/-- The failure of a name of no format: a number too long to be written is not shown. -/
def Format.unknownFailure (v : Value) : Failure :=
  .value (if v.isWritable then .unknownFormat v.display else .longNumeral)

theorem Format.ofValue_eq_error {v : Value} (unknown : IsUnknown v) : ofValue v = .error (unknownFailure v) := by
  have unread : parse? v.plain = none := by
    refine List.find?_eq_none.mpr fun f _ same => unknown f ?_
    exact (beq_iff_eq.mp same).symm
  rw [ofValue, Value.plainText, unknownFailure]
  split
  · rw [ok_bind, unread]
  · rfl

theorem Format.exists_ofValue_eq_ok {v : Value} (known : ¬ IsUnknown v) (writable : v.isWritable = true) :
    ∃ f, ofValue v = .ok f := by
  rw [IsUnknown, not_forall] at known
  obtain ⟨f, name⟩ := known
  have named : Text.lower (Text.strip v.plain) = Text.ofString f.text := not_not.mp name
  refine ⟨f, ?_⟩
  rw [ofValue, Value.plainText, if_pos writable, ok_bind, parse?, named]
  cases f <;> rfl

/-! ## Seeds -/

namespace Reference

theorem ofValues_int_of_index {count : Value} {c : Int} (index : count.asIndex = .ok c) (seed : Int) :
    ofValues (.int seed) count = if seed = 0 then .error (.value .zeroSeed) else .ok (describe seed c) := by
  rw [ofValues, isZero_int]
  by_cases zero : seed = 0
  · simp [zero]
  · simp only [zero, decide_false, Bool.false_eq_true, if_false, Value.asBits_int, index, ok_bind]
    exact if_neg zero

theorem ofValues_int_of_not_index {count : Value} {e : Failure} (other : count.asIndex = .error e) (seed : Int) :
    ofValues (.int seed) count = .error (if seed = 0 then .value .zeroSeed else e) := by
  rw [ofValues, isZero_int]
  by_cases zero : seed = 0
  · simp [zero]
  · simp only [zero, decide_false, Bool.false_eq_true, if_false, Value.asBits_int, other, ok_bind]
    rfl

/-- Seeds with zero among them are refused for it, or for a count that is no number of outputs. -/
theorem allOfValues_eq_error {seeds : List Int} (zero : 0 ∈ seeds) (count : Value) :
    ∃ e, allOfValues (.list (seeds.map .int)) count = .error e ∧
      ((∃ c, count.asIndex = .ok c) → e = .value .zeroSeed) := by
  obtain ⟨before, later, rfl, fresh⟩ := List.eq_append_cons_of_mem zero
  have listed : allOfValues (.list ((before ++ 0 :: later).map .int)) count =
      (before ++ 0 :: later).mapM fun seed => ofValues (.int seed) count := by
    rw [allOfValues, show (Value.list ((before ++ 0 :: later).map .int)).items = .ok _ from rfl, ok_bind, List.mapM_map]
    rfl
  rw [listed]
  cases index : count.asIndex with
  | ok c =>
    -- every seed before the zero has its reference
    refine ⟨.value .zeroSeed, mapM_eq_error (fun seed early => ⟨describe seed c, ?_⟩) ?_, fun _ => rfl⟩
    · have proper : seed ≠ 0 := fun same => fresh (same ▸ early)
      rw [ofValues_int_of_index index, if_neg proper]
    · rw [ofValues_int_of_index index, if_pos rfl]
  | error e =>
    -- the first seed is refused already, whichever it is
    obtain ⟨first, rest, split⟩ : ∃ first rest, before ++ 0 :: later = first :: rest :=
      List.exists_cons_of_ne_nil (by simp)
    refine ⟨if first = 0 then .value .zeroSeed else e, ?_, nofun⟩
    rw [split]
    exact mapM_eq_error (List.forall_mem_nil _) (ofValues_int_of_not_index index first)

end Reference

/-! ## The file tree -/

/-- Data that are refused leave the file tree as it was, at every path and whatever the tree holds. Integers
    are refused as a sample for the first of them that no word holds, in every format; a format whose name is
    unknown is refused whatever the sample; and seeds are refused as a manifest if zero is among them, wherever
    it stands and whatever the count. -/
theorem refused_data_leaves_tree (p : Path) (t : FileTree) :
    (∀ (values : List Int) (format : Value), (∃ i ∈ values, ¬ (0 ≤ i ∧ i < 2 ^ 32)) →
      ∃ e, Output.writeValues (.list (values.map .int)) p format t = (.error e, t) ∧
        (¬ Format.IsUnknown format → format.isWritable = true →
          ∃ i, values.find? Output.isOutside = some i ∧ e = Output.outsideFailure i)) ∧
      (∀ values format : Value, Format.IsUnknown format →
        Output.writeValues values p format t = (.error (Format.unknownFailure format), t)) ∧
      ∀ (seeds : List Int) (count : Value), 0 ∈ seeds →
        ∃ e, Manifest.writeValues p (.list (seeds.map .int)) count t = (.error e, t) ∧
          ((∃ c, count.asIndex = .ok c) → e = .value .zeroSeed) := by
  refine ⟨fun values format outside => ?_, fun values format unknown => ?_, fun seeds count zero => ?_⟩
  · rw [Output.writeValues]
    cases named : Format.ofValue format with
    | error e =>
      refine ⟨e, rfl, fun known writable => ?_⟩
      obtain ⟨f, ok⟩ := Format.exists_ofValue_eq_ok known writable
      rw [ok] at named
      cases named
    | ok f =>
      obtain ⟨i, first⟩ : ∃ i, values.find? Output.isOutside = some i := by
        obtain ⟨i, member, beyond⟩ := outside
        exact Option.isSome_iff_exists.mp (List.find?_isSome.mpr ⟨i, member, Output.isOutside_iff.mpr beyond⟩)
      refine ⟨Output.outsideFailure i, ?_, fun _ _ => ⟨i, first, rfl⟩⟩
      simp only [Output.sample_eq_error first]
  · rw [Output.writeValues, Format.ofValue_eq_error unknown]
  · obtain ⟨e, refused, reason⟩ := Reference.allOfValues_eq_error zero count
    exact ⟨e, by rw [Manifest.writeValues, refused], reason⟩

/-- A file that is there is neither replaced nor emptied and the folder that is wanted is not made: a sample
    whose second number is too large, a sample in a format of an unknown name, and seeds with a zero behind one
    that has a reference. -/
theorem refused_data_leaves_tree_old_file :
    let t : FileTree := ⟨Path.ofText "/", [([Text.ofString "old"], .file [1, 2, 3])]⟩
    (∃ i ∈ [7, 0x100000000], ¬ ((0 : Int) ≤ i ∧ i < 2 ^ 32)) ∧
      Output.writeValues (.list ([7, 0x100000000].map .int)) (Path.ofText "old") (.text "dec") t =
        (.error (.range (.number 0x100000000 "uint32")), t) ∧
      Format.IsUnknown (.text "xml") ∧
      Output.writeValues (.list []) (Path.ofText "new/sample") (.text "xml") t =
        (.error (.value (.unknownFormat "'xml'")), t) ∧
      (0 : Int) ∈ [1, 0] ∧
      Manifest.writeValues (Path.ofText "new/vectors") (.list ([1, 0].map .int)) (.int 5) t =
        (.error (.value .zeroSeed), t) := by
  intro t
  have outside : ∃ i ∈ [7, 0x100000000], ¬ ((0 : Int) ≤ i ∧ i < 2 ^ 32) := ⟨0x100000000, by decide, by decide⟩
  have unknown : Format.IsUnknown (.text "xml") := by
    intro f
    cases f <;> decide
  have zero : (0 : Int) ∈ [1, 0] := by decide
  refine ⟨outside, ?_, unknown, ?_, zero, ?_⟩
  · obtain ⟨e, refused, reason⟩ :=
      (refused_data_leaves_tree (Path.ofText "old") t).1 [7, 0x100000000] (.text "dec") outside
    obtain ⟨i, first, rfl⟩ := reason (fun unknown => unknown .dec (by decide)) rfl
    cases first
    exact refused
  · exact (refused_data_leaves_tree (Path.ofText "new/sample") t).2.1 (.list []) (.text "xml") unknown
  · obtain ⟨e, refused, reason⟩ :=
      (refused_data_leaves_tree (Path.ofText "new/vectors") t).2.2 [1, 0] (.int 5) zero
    rw [refused, reason ⟨5, rfl⟩]

end SeedStream
