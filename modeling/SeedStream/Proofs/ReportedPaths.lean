import SeedStream.CommandLine.Run
import SeedStream.Proofs.BuiltSettings
import SeedStream.Proofs.CommandWords
import SeedStream.Proofs.PathTexts
import SeedStream.Proofs.SampleFiles

/-!
# The paths that are reported for written files

Where an array file is written depends on the text of its path, and which path is reported for it on the suffix of
the last name. The two agree unless the last name is the ending alone (`reportedPath_eq_ok`).
-/

namespace SeedStream

/-! ## Growing file trees -/

namespace FileTree

/-- Nothing has changed in a tree but that there may be more folders. -/
def Grows (t after : FileTree) : Prop :=
  ∀ place, after.get? place = t.get? place ∨ t.get? place = none ∧ after.get? place = some .folder

variable {t middle after : FileTree} {p : Path}

theorem Grows.refl (t : FileTree) : t.Grows t :=
  fun _ => .inl rfl

theorem Grows.trans (first : t.Grows middle) (second : middle.Grows after) : t.Grows after := by
  intro place
  rcases second place with same | ⟨absent, made⟩
  · rw [same]
    exact first place
  · rcases first place with same | ⟨_, there⟩
    · exact .inr ⟨same.symm.trans absent, made⟩
    · rw [there] at absent
      cases absent

theorem grows_of_makeOne (made : t.makeOne p = .ok after) : t.Grows after := by
  obtain ⟨place, -, put⟩ := bind_eq_ok_iff.mp made
  split at put
  case h_1 => cases put
  case h_2 absent =>
    cases put
    intro other
    by_cases same : other = place
    · subst same
      -- The root is there, so it was not made.
      have proper : other ≠ [] := by
        rintro rfl
        cases absent
      exact .inr ⟨absent, get?_put proper _⟩
    · exact .inl (get?_put_of_ne same _)

theorem grows_of_ensureOne (made : t.ensureOne p = .ok after) : t.Grows after := by
  rw [ensureOne] at made
  split at made
  case h_1 one =>
    cases made
    exact grows_of_makeOne one
  case h_2 =>
    split at made
    case isTrue =>
      cases made
      exact .refl t
    case isFalse => cases made

/-- Folders that are made, all that were asked for or some of them, are all that changes. -/
theorem grows_ensureDepth (p : Path) (depth : Nat) (t : FileTree) : t.Grows (ensureDepth p depth t).2 := by
  induction depth with
  | zero =>
    rw [ensureDepth]
    split
    case h_1 one => exact grows_of_ensureOne one
    case h_2 => exact .refl t
  | succ depth ih =>
    rw [ensureDepth]
    split
    case h_1 one => exact grows_of_makeOne one
    case h_2 =>
      split
      case h_1 above =>
        rw [above] at ih
        split
        case h_1 one => exact ih.trans (grows_of_ensureOne one)
        case h_2 => exact ih
      case h_2 above =>
        rw [above] at ih
        exact ih
    case h_3 => split <;> exact .refl t

/-- The file at a place is the only one that was created or replaced; beside it there may be more folders. -/
def OnlyWrites (t after : FileTree) (place : Location) (bytes : List UInt8) : Prop :=
  after.get? place = some (.file bytes) ∧
    ∀ other ≠ place, after.get? other = t.get? other ∨ t.get? other = none ∧ after.get? other = some .folder

end FileTree

namespace Output

open FileTree

variable {p q : Path} {t after : FileTree} {ws : List Word} {format : Format}

/-! ## Written files -/

theorem place_eq_ok {file : Path} {bytes : List UInt8} {reported : Except Failure Path}
    (placed : place p file bytes reported t = (.ok q, after)) :
    reported = .ok q ∧ ∃ found, after.locate file = .ok found ∧ t.OnlyWrites after found bytes := by
  rw [place] at placed
  have grown := grows_ensureDepth p.parent p.parent.parts.length t
  split at placed
  case h_1 => cases placed
  case h_2 middle above =>
    rw [← FileTree.ensureFolder, above] at grown
    split at placed
    case h_1 => cases placed
    case h_2 wrote =>
      obtain ⟨found, located, free, rfl⟩ := write_eq_ok wrote
      obtain ⟨rfl, rfl⟩ := Prod.mk.inj placed
      have proper : found ≠ [] := by
        rintro rfl
        exact free rfl
      refine ⟨rfl, found, locate_put free _ located, get?_put proper _, fun other apart => ?_⟩
      rw [get?_put_of_ne apart]
      exact grown other

/-- A sample that was written stands where it was written to, and no other file was touched. -/
theorem onlyWrites_of_write (written : write ws p format t = (.ok q, after)) :
    (if format = .npy then reportedPath p else .ok p) = .ok q ∧
      ∃ found, after.locate (writtenPath format p) = .ok found ∧ t.OnlyWrites after found (encode format ws) := by
  unfold write at written
  split at written
  case isTrue => cases written
  case isFalse =>
    cases format with
    | npy | hex | dec | bin => exact place_eq_ok written

/-! ## Array files -/

theorem arrayEnding_eq : arrayEnding = Path.dot :: Text.ofString "npy" := rfl

theorem slash_notMem_arrayEnding : Path.slash ∉ arrayEnding := by
  decide

variable {init : List Text} {last : Text}

theorem arrayPath_of_isSuffix (parts : p.parts = init ++ [last]) (ends : arrayEnding <:+ last) : arrayPath p = p := by
  have whole := (Path.isSuffix_text_iff parts slash_notMem_arrayEnding).mpr ends
  rw [arrayPath, if_pos (List.isSuffixOf_iff_suffix.mpr whole)]

/-- An array file whose last name lacks the ending is written to the path with the ending behind that name. -/
theorem arrayPath_of_not_isSuffix (proper : p.IsProper) (parts : p.parts = init ++ [last]) (lacks : ¬ arrayEnding <:+ last) :
    arrayPath p = { p with parts := init ++ [last ++ arrayEnding] } := by
  have part := mt (Path.isSuffix_text_iff parts slash_notMem_arrayEnding).mp lacks
  have named : ∀ name ∈ init ++ [last ++ arrayEnding], Path.isName name = true ∧ Path.slash ∉ name := by
    have each : ∀ name ∈ init ++ [last], Path.isName name = true ∧ Path.slash ∉ name := parts ▸ proper
    obtain ⟨before, own⟩ := List.forall_mem_append.mp each
    refine List.forall_mem_append.mpr ⟨before, List.forall_mem_singleton.mpr ⟨?_, ?_⟩⟩
    · cases last with
      | nil => decide
      | cons letter rest =>
        have filled : rest ++ arrayEnding ≠ [] := List.append_ne_nil_of_right_ne_nil rest (by decide)
        simp [Path.isName, filled]
    · rw [List.mem_append, not_or]
      exact ⟨(List.forall_mem_singleton.mp own).2, slash_notMem_arrayEnding⟩
  rw [arrayPath, if_neg (mt List.isSuffixOf_iff_suffix.mp part), ← Path.text_append parts]
  exact Path.ofText_text (p := { p with parts := init ++ [last ++ arrayEnding] }) named (List.concat_ne_nil _ _)

theorem suffix_eq_arrayEnding_iff : p.suffix = arrayEnding ↔ arrayEnding <:+ p.name ∧ p.name ≠ arrayEnding := by
  rw [arrayEnding_eq, Path.suffix_eq_iff (by decide) (by decide)]
  constructor
  · rintro ⟨front, more, name⟩
    rw [name]
    exact ⟨List.suffix_append _ _, fun same => more (List.append_left_eq_self.mp same)⟩
  · rintro ⟨⟨front, name⟩, other⟩
    refine ⟨front, ?_, name.symm⟩
    rintro rfl
    exact other name.symm

/-- Which path is reported for an array file: where the file stands, unless the last name is the ending alone; then
    the file stands there and the path that is reported has the ending twice. -/
theorem reportedPath_eq_ok (proper : p.IsProper) (reported : reportedPath p = .ok q) :
    (p.name ≠ arrayEnding → q = arrayPath p) ∧
      (p.name = arrayEnding → arrayPath p = p ∧ q = { p with parts := p.parts.dropLast ++ [arrayEnding ++ arrayEnding] }) := by
  rcases List.eq_nil_or_concat p.parts with none | ⟨init, last, parts⟩
  · have name : p.name = [] := by
      rw [Path.name, none]
      rfl
    have other : p.suffix ≠ arrayEnding := by
      rw [ne_eq, suffix_eq_arrayEnding_iff, name]
      decide
    rw [reportedPath, if_neg other, Path.withName?, if_pos name] at reported
    cases reported
  · rw [List.concat_eq_append] at parts
    have name := Path.name_of_parts parts
    have given : p.name ≠ [] := by
      intro nameless
      have named := (proper last (parts ▸ List.mem_append_right _ List.mem_cons_self)).1
      rw [← name, nameless] at named
      cases named
    have ending := suffix_eq_arrayEnding_iff (p := p)
    rw [name] at ending
    rw [reportedPath, Path.withName?, if_neg given, parts, List.dropLast_concat, name] at reported
    rw [name, parts, List.dropLast_concat]
    by_cases ends : arrayEnding <:+ last
    · rw [arrayPath_of_isSuffix parts ends]
      constructor
      · intro other
        rw [if_pos (ending.mpr ⟨ends, other⟩)] at reported
        exact (Except.ok.inj reported).symm
      · rintro rfl
        rw [if_neg fun same => (ending.mp same).2 rfl] at reported
        exact ⟨rfl, (Except.ok.inj reported).symm⟩
    · rw [arrayPath_of_not_isSuffix proper parts ends]
      constructor
      · intro _
        rw [if_neg fun same => ends (ending.mp same).1] at reported
        exact (Except.ok.inj reported).symm
      · rintro rfl
        exact absurd List.suffix_rfl ends

/-- Unless it is an array file whose last name is the ending alone, a sample stands at the path that is reported. -/
theorem eq_writtenPath_of_write (proper : p.IsProper) (written : write ws p format t = (.ok q, after))
    (other : format = .npy → p.name ≠ arrayEnding) : q = writtenPath format p := by
  obtain ⟨reported, -⟩ := onlyWrites_of_write written
  by_cases array : format = .npy
  · rw [if_pos array] at reported
    rw [writtenPath, if_pos array]
    exact (reportedPath_eq_ok proper reported).1 (other array)
  · rw [if_neg array] at reported
    rw [writtenPath, if_neg array]
    exact (Except.ok.inj reported).symm

end Output

/-! ## Paths of the settings -/

namespace Settings

theorem outputPath_isProper {v : Value} {p : Path} (given : outputPath v = .ok (some p)) : p.IsProper := by
  unfold outputPath at given
  split at given
  case isTrue => cases given
  case isFalse =>
    cases v with
    | text t =>
      cases given
      exact Path.isProper_ofText t
    | _ => cases given

theorem ofFields_isProper {fields : List (Text × Value)} {s : Settings} (made : ofFields fields = .ok s) {p : Path}
    (output : s.output = some p) : p.IsProper := by
  have path := (ofFields_eq_ok_iff.mp made).output
  rw [output] at path
  cases field : either "outputPath" "output_path" fields with
  | none =>
    rw [field] at path
    cases path
  | some v =>
    rw [field] at path
    exact outputPath_isProper path

end Settings

namespace CommandLine

open Output

theorem output_isProper_of_parse {words : List Text} {f : Flags} (parsed : parse words = .ok (.command (.generate f)))
    {p : Path} (output : f.output = some p) : p.IsProper := by
  obtain ⟨t, -, rfl⟩ := (ofGenerate_of_parse parsed).output p output
  exact Path.isProper_ofText t

theorem settings_isProper {m : Machine} {f : Flags} {s : Settings} {source : SourceName}
    (set : settingsOf m f = .ok (s, source)) (own : ∀ p, f.output = some p → p.IsProper) {p : Path}
    (output : s.output = some p) : p.IsProper := by
  obtain ⟨mapping, -, set⟩ := bind_eq_ok_iff.mp set
  obtain ⟨base, based, rfl, -⟩ := Flags.built_eq_ok_iff.mp (Flags.settings_eq_ok_iff.mp set).1
  rw [Flags.over] at output
  rcases Option.or_eq_some_iff.mp output with given | ⟨-, before⟩
  · exact own p given
  · cases mapping with
    | none =>
      cases based
      cases before
    | some fields => exact Settings.ofFields_isProper based before

/-! ## Runs that write -/

/-- A command line for `generate` has words written to an absolute path in a format. -/
def WritesTo [Memory] (m : Machine) (words : List Text) (ws : List Word) (p : Path) (format : Format) : Prop :=
  ∃ f s source given, parse words = .ok (.command (.generate f)) ∧ settingsOf m f = .ok (s, source) ∧
    drawn (generatorOf m s source) s.count = .ok ws ∧ s.format = format ∧ s.output = some given ∧ m.resolve given = .ok p

variable {m : Machine} {words : List Text} {ws : List Word} {p q : Path} {format : Format} {after : FileTree}

theorem WritesTo.isProper [Memory] (writes : WritesTo m words ws p format) (folder : m.tree.working.IsProper) :
    p.IsProper := by
  obtain ⟨f, s, source, given, parsed, set, -, -, output, resolved⟩ := writes
  obtain ⟨_, -, same⟩ := bind_eq_ok_iff.mp resolved
  cases same
  exact folder.resolve (settings_isProper set (fun _ => output_isProper_of_parse parsed) output)

theorem WritesTo.run_eq [Memory] (writes : WritesTo m words ws p format) :
    ∃ s given, s.format = format ∧ m.resolve given = .ok p ∧ run m words = writeWords m s ws given := by
  obtain ⟨f, s, source, given, parsed, set, drew, format, output, resolved⟩ := writes
  refine ⟨s, given, format, resolved, ?_⟩
  rw [CommandLine.run, parsed]
  change runGenerate m f = _
  rw [runGenerate, set]
  dsimp only
  rw [drew]
  dsimp only
  rw [output]

/-- After the sample was written, such a run prints its path and, if that leads to a file, the digest. -/
theorem WritesTo.run_of_write [Memory] (writes : WritesTo m words ws p format)
    (written : write ws p format m.tree = (.ok q, after)) :
    (∀ digest, Digest.ofFile after q (.int Digest.defaultPiece) = .ok digest →
      run m words = ⟨["output=" ++ q.text, "sha256=" ++ digest], .success, after, []⟩) ∧
    ∀ e, Digest.ofFile after q (.int Digest.defaultPiece) = .error e →
      run m words = ⟨["output=" ++ q.text], endingOf e, after, []⟩ := by
  obtain ⟨s, given, rfl, resolved, ran⟩ := writes.run_eq
  constructor
  · intro digest digested
    rw [ran, writeWords, resolved]
    dsimp only
    rw [written]
    dsimp only
    rw [digested]
  · intro e failed
    rw [ran, writeWords, resolved]
    dsimp only
    rw [written]
    dsimp only
    rw [failed]

/-- The path that is reported for a written sample leads to the one file that was created or replaced, and from there
    the sample is read; a command line for `generate` that has it written ends well with the digest of that file. The
    one exception is an array file whose last name is the ending alone: it stands under this name, and the path that is
    reported ends with the ending twice. Standard output is taken to accept every letter, so printing the path does
    not fail even if a name in it has letters of no code. -/
theorem written_file_is_reported [Memory] (ws : List Word) (format : Format) :
    (∀ p t q after, p.IsProper → write ws p format t = (.ok q, after) →
      ((format = .npy → p.name ≠ arrayEnding) →
        (∃ found, after.locate q = .ok found ∧ t.OnlyWrites after found (encode format ws)) ∧
          read q format after = .ok ⟨[ws.length], ws⟩) ∧
      (format = .npy → p.name = arrayEnding →
        (∃ found, after.locate p = .ok found ∧ t.OnlyWrites after found (encode format ws)) ∧
          q = { p with parts := p.parts.dropLast ++ [arrayEnding ++ arrayEnding] })) ∧
    ∀ m words p q after, m.tree.working.IsProper → WritesTo m words ws p format →
      write ws p format m.tree = (.ok q, after) → (format = .npy → p.name ≠ arrayEnding) →
        ∃ digest, Digest.ofFile after q (.int Digest.defaultPiece) = .ok digest ∧
          run m words = ⟨["output=" ++ q.text, "sha256=" ++ digest], .success, after, []⟩ := by
  refine ⟨fun p t q after proper written => ⟨fun other => ?_, fun array ending => ?_⟩,
    fun m words p q after folder writes written other => ?_⟩
  · obtain ⟨short, held⟩ := read_of_write written
    obtain ⟨-, only⟩ := onlyWrites_of_write written
    rw [eq_writtenPath_of_write proper written other]
    refine ⟨only, ?_⟩
    rw [Output.read, held]
    exact decode_encode (.inl rfl) fun _ => short
  · obtain ⟨reported, only⟩ := onlyWrites_of_write written
    rw [if_pos array] at reported
    obtain ⟨here, twice⟩ := (reportedPath_eq_ok proper reported).2 ending
    rw [writtenPath, if_pos array, here] at only
    exact ⟨only, twice⟩
  · obtain ⟨-, held⟩ := read_of_write written
    rw [← eq_writtenPath_of_write (writes.isProper folder) written other] at held
    obtain ⟨digest, digested⟩ := Digest.exists_ofFile held
    exact ⟨digest, digested, (writes.run_of_write written).1 digest digested⟩

/-- A machine with an empty file tree. -/
def emptyMachine : Machine :=
  ⟨Environment.fresh (fun k => k) fun _ => .bytes [], ⟨Path.ofText "/", []⟩, []⟩

section

attribute [local instance] Memory.standard

theorem drawn_seed_one :
    drawn (generatorOf emptyMachine { Settings.standard with seed := some 1 } .auto) 1 = .ok [0x443636e7] := by
  decide +kernel

/-- Array files with a name that has two dots before the ending, and with one that ends with a dot. -/
theorem written_file_is_reported_dotted :
    (∃ after, write [7] (Path.ofText "out/..npy") .npy ⟨Path.ofText "/", []⟩ = (.ok (Path.ofText "out/..npy"), after) ∧
      read (Path.ofText "out/..npy") .npy after = .ok ⟨[1], [7]⟩) ∧
    ∃ after digest, run emptyMachine ["generate", "--seed", "1", "--count", "1", "--format", "npy", "--output", "a."] =
      ⟨["output=/a..npy", "sha256=" ++ digest], .success, after, []⟩ := by
  constructor
  · obtain ⟨after, written⟩ : ∃ after, write [7] (Path.ofText "out/..npy") .npy ⟨Path.ofText "/", []⟩ =
        (.ok (Path.ofText "out/..npy"), after) := ⟨_, rfl⟩
    obtain ⟨writes, -⟩ := written_file_is_reported [7] .npy
    obtain ⟨-, found⟩ := (writes _ _ _ _ (Path.isProper_ofText _) written).1 fun _ => by decide
    exact ⟨after, written, found⟩
  · obtain ⟨after, written⟩ : ∃ after, write [0x443636e7] (Path.ofText "/a.") .npy emptyMachine.tree =
        (.ok (Path.ofText "/a..npy"), after) := ⟨_, rfl⟩
    have asked : WritesTo emptyMachine ["generate", "--seed", "1", "--count", "1", "--format", "npy", "--output", "a."]
        [0x443636e7] (Path.ofText "/a.") .npy := ⟨_, _, _, _, rfl, rfl, drawn_seed_one, rfl, rfl, rfl⟩
    obtain ⟨-, runs⟩ := written_file_is_reported [0x443636e7] .npy
    obtain ⟨digest, -, ran⟩ := runs _ _ _ _ _ (Path.isProper_ofText _) asked written fun _ => by decide
    exact ⟨after, digest, ran⟩

/-- An array file whose name is the ending alone stands under that name, and its path is reported with the ending
    twice, where nothing stands. So the digest fails after the file was written. -/
theorem unreported_array_file :
    let o := run emptyMachine ["generate", "--seed", "1", "--count", "1", "--format", "npy", "--output", ".npy"]
    o.printed = [Text.ofString "output=/.npy.npy"] ∧ o.ending = .failed (.file .absent "/.npy.npy") ∧
      o.tree.get? [".npy"] = some (.file (encode .npy [0x443636e7])) := by
  intro o
  have asked : WritesTo emptyMachine ["generate", "--seed", "1", "--count", "1", "--format", "npy", "--output", ".npy"]
      [0x443636e7] (Path.ofText "/.npy") .npy := ⟨_, _, _, _, rfl, rfl, drawn_seed_one, rfl, rfl, rfl⟩
  obtain ⟨after, written, absent, stands⟩ : ∃ after,
      write [0x443636e7] (Path.ofText "/.npy") .npy emptyMachine.tree = (.ok (Path.ofText "/.npy.npy"), after) ∧
        Digest.ofFile after (Path.ofText "/.npy.npy") (.int Digest.defaultPiece) = .error (.file .absent "/.npy.npy") ∧
        after.get? [".npy"] = some (.file (encode .npy [0x443636e7])) := ⟨_, rfl, rfl, rfl⟩
  have ran : o = _ := (asked.run_of_write written).2 _ absent
  rw [ran]
  exact ⟨rfl, rfl, stands⟩

end

end CommandLine

end SeedStream
