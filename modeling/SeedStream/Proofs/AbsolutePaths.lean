import SeedStream.Proofs.Lookups

/-!
# Paths made absolute

A path that leads somewhere leads there as well when it is made absolute, if its text is then still fit to be looked
up (`locate_resolve`). The text of a path that begins at the root is, because following two dots makes it no longer;
that of another path may become too long.
-/

namespace SeedStream

namespace FileTree

/-! ## Ways -/

variable {t : FileTree}

/-- A way leads where its names are followed to. -/
theorem eq_follow_of_walk {start found : Location} {parts : List Text} (way : t.walk start parts = .ok found) :
    found = Path.follow start parts := by
  fun_induction walk t start parts with
  | case1 start => exact (Except.ok.inj way).symm
  | case2 => cases way
  | case3 => cases way
  | case4 => cases way
  | case5 start part rest folder short ih => exact ih way

theorem walk_append (t : FileTree) (start : Location) (as bs : List Text) :
    t.walk start (as ++ bs) = t.walk start as >>= fun place => t.walk place bs := by
  fun_induction walk t start as with
  | case1 start => rfl
  | case2 start part rest none => rw [List.cons_append, walk, none]; rfl
  | case3 start part rest bytes file => rw [List.cons_append, walk, file]; rfl
  | case4 start part rest folder long => rw [List.cons_append, walk, folder]; exact if_pos long
  | case5 start part rest folder short ih =>
    rw [List.cons_append, walk, folder]
    dsimp only
    rw [if_neg short]
    exact ih

/-- Every folder on a way can be gone to by its own names, and so can the end of the way. -/
theorem walk_of_walk {start found : Location} {parts : List Text} (clean : Path.back ∉ start)
    (reached : t.walk [] start = .ok start) (way : t.walk start parts = .ok found) : t.walk [] found = .ok found := by
  fun_induction walk t start parts with
  | case1 start =>
    cases way
    exact reached
  | case2 => cases way
  | case3 => cases way
  | case4 => cases way
  | case5 start part rest folder short ih =>
    by_cases back : part = Path.back
    · -- Two dots lead to a folder that was gone through on the way to this one.
      rw [if_pos back] at ih way
      refine ih (fun member => clean ((List.dropLast_sublist _).subset member)) ?_ way
      rcases List.eq_nil_or_concat start with rfl | ⟨names, last, rfl⟩
      · rfl
      · rw [List.concat_eq_append] at clean reached ⊢
        have without : Path.back ∉ names := fun member => clean (List.mem_append_left _ member)
        rw [walk_append] at reached
        obtain ⟨place, upTo, -⟩ := bind_eq_ok_iff.mp reached
        rw [List.dropLast_concat, upTo, eq_follow_of_walk upTo, Path.follow_eq without, List.nil_append]
    · rw [if_neg back] at ih way
      have next : t.walk start [part] = .ok (start ++ [part]) := by
        rw [walk, folder]
        dsimp only
        rw [if_neg short, if_neg back, walk]
      refine ih ?_ ?_ way
      · rw [List.mem_append, List.mem_singleton, not_or]
        exact ⟨clean, Ne.symm back⟩
      · rw [walk_append, reached]
        exact next

/-! ## Names of a path -/

theorem mayStand_slash : MayStand Path.slash := by
  decide

theorem mayStand_of_mem_back : ∀ l ∈ Path.back, MayStand l := by
  decide

theorem mem_text {p : Path} {part : Text} (member : part ∈ p.parts) {l : Letter} (inside : l ∈ part) : l ∈ p.text := by
  have named : ¬ (p.anchor = .here ∧ p.parts = []) := fun bare => by
    rw [bare.2] at member
    cases member
  rw [Path.text, if_neg named]
  exact List.mem_append_right _ (Text.mem_joined member inside)

/-- What may be looked up from names that may stay so: two dots and slashes add nothing that may not. -/
theorem mayStand_of_mem_lookups {start : Text} {place parts : List Text} (front : ∀ l ∈ start, MayStand l)
    (before : ∀ part ∈ place, ∀ l ∈ part, MayStand l) (names : ∀ part ∈ parts, ∀ l ∈ part, MayStand l) :
    ∀ text ∈ Path.lookups start place parts, ∀ l ∈ text, MayStand l := by
  induction parts generalizing place with
  | nil => nofun
  | cons part rest ih =>
    obtain ⟨first, others⟩ := List.forall_mem_cons.mp names
    rw [Path.lookups]
    split
    case isTrue back =>
      -- The places reached by two dots are made of names gone through before and of two dots.
      refine ih ?_ others
      split
      case h_1 =>
        split
        · exact List.forall_mem_singleton.mpr mayStand_of_mem_back
        · nofun
      case h_2 =>
        split
        · exact List.forall_mem_append.mpr ⟨before, List.forall_mem_singleton.mpr mayStand_of_mem_back⟩
        · exact fun name member => before name ((List.dropLast_sublist _).subset member)
    case isFalse forward =>
      have further : ∀ name ∈ place ++ [part], ∀ l ∈ name, MayStand l :=
        List.forall_mem_append.mpr ⟨before, List.forall_mem_singleton.mpr first⟩
      refine List.forall_mem_cons.mpr ⟨List.forall_mem_append.mpr ⟨front, ?_⟩, ih further others⟩
      exact Text.forall_mem_joined mayStand_slash further

/-! ## Sizes -/

/-- The number of bytes of names with a slash behind each. -/
def namesSize : List Text → Nat
  | [] => 0
  | part :: rest => byteSize part + 1 + namesSize rest

theorem namesSize_append (as bs : List Text) : namesSize (as ++ bs) = namesSize as + namesSize bs := by
  induction as with
  | nil => rw [List.nil_append, namesSize, Nat.zero_add]
  | cons part rest ih =>
    rw [List.cons_append, namesSize, namesSize, ih]
    omega

theorem byteSize_joined (parts : List Text) : byteSize (Text.joined Path.slash parts) = namesSize parts - 1 := by
  fun_induction Text.joined Path.slash parts with
  | case1 => rfl
  | case2 part => rfl
  | case3 part rest more ih =>
    obtain ⟨next, others, rfl⟩ := List.exists_cons_of_ne_nil more
    have slash : byteSize (Path.slash :: Text.joined Path.slash (next :: others)) =
        1 + byteSize (Text.joined Path.slash (next :: others)) := byteSize_append [Path.slash] _
    rw [byteSize_append, slash, ih]
    simp only [namesSize]
    omega

theorem namesSize_follow (place parts : List Text) :
    namesSize (Path.follow place parts) ≤ namesSize place + namesSize parts := by
  induction parts generalizing place with
  | nil => exact Nat.le_add_right _ _
  | cons part rest ih =>
    have next : namesSize (if part = Path.back then place.dropLast else place ++ [part]) ≤
        namesSize place + (byteSize part + 1) := by
      split
      · rcases List.eq_nil_or_concat place with rfl | ⟨names, last, rfl⟩
        · exact Nat.zero_le _
        · rw [List.concat_eq_append, List.dropLast_concat, namesSize_append]
          omega
      · rw [namesSize_append]
        exact Nat.le_refl _
    have later := ih (if part = Path.back then place.dropLast else place ++ [part])
    rw [Path.follow, namesSize]
    omega

/-! ## Absolute paths -/

theorem mayStand_of_mem_lookupTexts {p : Path} (names : ∀ part ∈ p.parts, ∀ l ∈ part, MayStand l) :
    ∀ text ∈ p.lookupTexts, ∀ l ∈ text, MayStand l := by
  rw [Path.lookupTexts]
  refine mayStand_of_mem_lookups ?_ (List.forall_mem_nil _) names
  split
  · exact List.forall_mem_nil _
  · exact List.forall_mem_singleton.mpr mayStand_slash

/-- A path that leads somewhere has names that may be looked up one after another. -/
theorem resolve_of_locate {p : Path} {place : Location} (located : t.locate p = .ok place) :
    t.resolve p = .ok (Path.resolve t.working p) := by
  obtain ⟨⟨letters, -⟩, -⟩ := locate_eq_ok_iff.mp located
  have names : ∀ part ∈ p.parts, ∀ l ∈ part, MayStand l := fun part member l inside =>
    letters l (mem_text member inside)
  have looked : (p.lookupTexts.forM fun text => do let _ ← lookupBytes text) = (.ok () : Except Failure Unit) := by
    refine forM_eq_ok fun text member => ?_
    rw [lookupBytes_eq_ok_iff.mpr ⟨mayStand_of_mem_lookupTexts names text member, rfl⟩]
    rfl
  rw [resolve, looked]
  rfl

theorem mem_follow {place parts : List Text} {part : Text} (member : part ∈ Path.follow place parts) :
    part ∈ place ∨ part ∈ parts := by
  induction parts generalizing place with
  | nil => exact .inl member
  | cons first rest ih =>
    rw [Path.follow] at member
    rcases ih member with before | later
    · split at before
      · exact .inl ((List.dropLast_sublist _).subset before)
      · rcases List.mem_append.mp before with inside | last
        · exact .inl inside
        · exact .inr (List.mem_singleton.mp last ▸ List.mem_cons_self)
    · exact .inr (List.mem_cons_of_mem _ later)

/-- A path from the root is fit to be looked up if one that it is followed from is. -/
theorem fits_resolve {p : Path} (absolute : p.anchor ≠ .here) (fits : Fits p.text) (working : Path) :
    Fits (Path.resolve working p).text := by
  obtain ⟨letters, short⟩ := fits
  have same : Path.under working p = p := by
    rw [Path.under]
    split
    case h_1 here => exact absurd here absolute
    case h_2 => rfl
  have text : (Path.resolve working p).text =
      Path.slash :: Text.joined Path.slash (Path.follow [] p.parts) := by
    have root : Text.ofString Anchor.root.text = [Path.slash] := rfl
    rw [Path.resolve, same, Path.text, if_neg (by simp), root]
    rfl
  have old : p.text = Text.ofString p.anchor.text ++ Text.joined Path.slash p.parts :=
    if_neg fun bare => absolute bare.1
  have front : 1 ≤ byteSize (Text.ofString p.anchor.text) := by
    cases anchor : p.anchor with
    | here => exact absurd anchor absolute
    | root | doubleRoot => decide
  rw [text]
  constructor
  · refine List.forall_mem_cons.mpr ⟨mayStand_slash, ?_⟩
    refine Text.forall_mem_joined mayStand_slash fun part member l inside => ?_
    rcases mem_follow member with nowhere | inPath
    · cases nowhere
    · exact letters l (mem_text inPath inside)
  · -- The names that remain are among those of the path, each with one slash as before.
    have sizes := namesSize_follow [] p.parts
    have slash : byteSize (Path.slash :: Text.joined Path.slash (Path.follow [] p.parts)) =
        1 + byteSize (Text.joined Path.slash (Path.follow [] p.parts)) := byteSize_append [Path.slash] _
    have empty : namesSize [] = 0 := rfl
    rw [old, byteSize_append, byteSize_joined] at short
    rw [slash, byteSize_joined]
    omega

/-- A path that leads somewhere leads there when it is made absolute, if it begins at the root or its absolute text
    is fit to be looked up. -/
theorem locate_resolve {p : Path} {place : Location} (located : t.locate p = .ok place)
    (fits : p.anchor ≠ .here ∨ Fits (Path.resolve t.working p).text) :
    t.locate (Path.resolve t.working p) = .ok place := by
  obtain ⟨fit, way⟩ := locate_eq_ok_iff.mp located
  refine locate_eq_ok_iff.mpr ⟨fits.elim (fun absolute => fits_resolve absolute fit _) id, ?_⟩
  have again := walk_of_walk List.not_mem_nil rfl way
  conv at again => lhs; rw [eq_follow_of_walk way]
  exact again

end FileTree

end SeedStream
