import SeedStream.Proofs.ManifestCommands

/-!
# What the check of a manifest finds

The entries of the manifest in a file are counted once each, by what they say of their seeds.
-/

namespace SeedStream

namespace Manifest

/-! ## Manifests in files -/

/-- The file at a path is the JSON text of an object with these entries; an object that tells of none has none. -/
def Holds (t : FileTree) (p : Path) (entries : List Value) : Prop :=
  ∃ bytes cs fields, t.read p = .ok bytes ∧ Text.decodeUtf8 bytes = .ok cs ∧
    Json.parse (Text.unifyNewlines cs) = .ok (.object fields) ∧
    ((Value.field? "entries" fields).getD (.list [])).items = .ok entries

theorem check_of_holds {t : FileTree} {p : Path} {entries : List Value} (held : Holds t p entries)
    (proper : ∀ entry ∈ entries, IsProper entry) :
    check p t = .ok (reportOf (entries.map fun entry => (entry, verdictOf entry))) := by
  obtain ⟨bytes, cs, fields, found, decoded, parsed, listed⟩ := held
  rw [check, found]
  simp only [bind, Except.bind, checkBytes, decoded, parsed]
  exact checkContent_of_isProper listed proper

end Manifest

namespace CommandLine

variable {t : FileTree} {p : Path} {entries : List Value}

/-- If every entry of a manifest lacks its seed or its outputs or tells a seed that is not zero and lists of words, the
    check gives a report that counts each entry once: those that lack something, in order, those whose words are those
    of their seed, and the others, in order, with what they say beside what is true. The command that has the manifest
    checked prints the report and ends without the exit code one exactly if every entry is verified. -/
theorem manifest_entries_classified [Memory] (held : Manifest.Holds t p entries)
    (proper : ∀ entry ∈ entries, Manifest.IsProper entry) :
    ∃ r, Manifest.check p t = .ok r ∧ r.total = entries.length ∧
      r.verified + r.missing.length + r.mismatched.length = r.total ∧
      r.missing = entries.filter Manifest.isLacking ∧
      r.verified = (entries.filterMap Manifest.statement?).countP (·.IsTrue) ∧
      r.mismatched = ((entries.filterMap Manifest.statement?).filter fun s => ¬ s.IsTrue).map (·.mismatch) ∧
      ∀ m words f q, m.tree = t → parse words = .ok (.command (.vectors f)) → f.check = some q → m.resolve q = .ok p →
        (run m words).printed = [Text.ofChars (Json.pretty r.toValue)] ∧
          ((run m words).ending.exitCode ≠ 1 ↔ r.verified = r.total) := by
  have checked := Manifest.check_of_holds held proper
  have clean := Manifest.isClean_reportOf (entries.map fun entry => (entry, Manifest.verdictOf entry))
  have counted := Manifest.reportOf_total (entries.map fun entry => (entry, Manifest.verdictOf entry))
  rw [Manifest.reportOf_verdicts proper] at checked clean counted
  refine ⟨_, checked, rfl, counted, rfl, rfl, rfl, fun m words f q tree parsed named resolved => ?_⟩
  subst tree
  rw [run_check parsed named resolved checked, ← clean]
  refine ⟨rfl, ?_⟩
  rw [Outcome.told]
  split
  case isTrue good => exact ⟨fun _ => good, fun _ => Nat.zero_ne_one⟩
  case isFalse bad => exact ⟨fun other => absurd rfl other, fun good => absurd good bad⟩

/-- A true statement in several spellings, an entry without a seed, and a statement with a wrong output. -/
def mixedEntries : List Value :=
  [.object [("seed", .int 1), ("outputs", .list [.text " 0x4436_36e7"]),
      ("state", .list [.text "0x06b5233e", .int 0x92fd57be, .text "0XB86DF9A0", .text "+0o6651364344"])],
    .object [("outputs", .list [])],
    .object [("seed", .int (-1)), ("outputs", .list [.int (-1)])]]

theorem simple_mixedEntries : Json.Simple Json.maxLevels (.object [("entries", .list mixedEntries)]) := by
  have number {n : Nat} {i : Int} (small : i.natAbs < 10 ^ 10) : Json.Simple n (.int i) :=
    .int (Integer.isWritable_of_lt (by decide) (by decide) small)
  have word {n : Nat} {s : String} (plain : (s.toList.all fun c => Json.IsPlain c) = true) :
      Json.Simple n (.text (Text.ofString s)) := .text (Json.isPlainText_ofString plain)
  refine .object_of_strings ["entries"] rfl (by decide) (by decide) (List.forall_mem_singleton.mpr (.list ?_))
  simp only [mixedEntries, List.forall_mem_cons]
  refine ⟨.object_of_strings ["seed", "outputs", "state"] rfl (by decide) (by decide) ?_,
    .object_of_strings ["outputs"] rfl (by decide) (by decide) (List.forall_mem_singleton.mpr (.list nofun)),
    .object_of_strings ["seed", "outputs"] rfl (by decide) (by decide) ?_, nofun⟩
  · simp only [List.forall_mem_cons]
    refine ⟨number (by decide), .list (List.forall_mem_singleton.mpr (word (by decide))), .list ?_, nofun⟩
    simp only [List.forall_mem_cons]
    exact ⟨word (by decide), number (by decide), word (by decide), word (by decide), nofun⟩
  · simp only [List.forall_mem_cons]
    exact ⟨number (by decide), .list (List.forall_mem_singleton.mpr (number (by decide))), nofun⟩

section

attribute [local instance] Memory.standard

/-- One entry of three is verified. -/
theorem manifest_entries_classified_mixed :
    ∃ t, Manifest.Holds t (Path.ofText "/m.json") mixedEntries ∧ (∀ entry ∈ mixedEntries, Manifest.IsProper entry) ∧
      ∃ r, Manifest.check (Path.ofText "/m.json") t = .ok r ∧ r.total = 3 ∧ r.verified = 1 ∧
        r.missing = [.object [("outputs", .list [])]] ∧
        r.mismatched = [Manifest.Statement.mismatch ⟨-1, [-1], none⟩] ∧
        (run ⟨Environment.fresh (fun k => k) fun _ => .bytes [], t, []⟩
          ["vectors", "--check", "/m.json"]).ending.exitCode = 1 := by
  obtain ⟨decoded, parsed⟩ := Manifest.read_written simple_mixedEntries
  -- The text is not looked into.
  generalize Json.pretty _ ++ ['\n'] = cs at decoded parsed
  have held : Manifest.Holds ⟨Path.ofText "/", [(["m.json"], .file (Text.encodeUtf8 cs))]⟩ (Path.ofText "/m.json")
      mixedEntries := ⟨_, cs, _, rfl, decoded, parsed, rfl⟩
  have proper : ∀ entry ∈ mixedEntries, Manifest.IsProper entry :=
    List.forall_mem_cons.mpr ⟨.inr ⟨_, rfl, by decide⟩, List.forall_mem_cons.mpr ⟨.inl rfl,
      List.forall_mem_singleton.mpr (.inr ⟨_, rfl, by decide⟩)⟩⟩
  obtain ⟨r, checked, total, -, missing, verified, mismatched, runs⟩ := manifest_entries_classified held proper
  have one : r.verified = 1 := verified.trans (by decide)
  refine ⟨_, held, proper, r, checked, total, one, missing, mismatched, ?_⟩
  obtain ⟨-, code⟩ := runs ⟨Environment.fresh (fun k => k) fun _ => .bytes [], _, []⟩ ["vectors", "--check", "/m.json"] _
    (Path.ofText "/m.json") rfl rfl rfl rfl
  rw [one, total] at code
  exact of_not_not fun other => absurd (code.mp other) (by decide)

end

end CommandLine

end SeedStream
