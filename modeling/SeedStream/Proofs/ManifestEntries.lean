import SeedStream.Manifest
import SeedStream.Proofs.Digits
import SeedStream.Proofs.Results

/-!
# What the entries of a manifest say

An entry says that a seed has some outputs first, and perhaps that it has a state. The words in it are integers in
any spelling; the check compares their texts, which differ exactly if the integers do (`Word.hexText_injective`). So
an entry is verified exactly if what it says is true (`checkEntry_of_isProper`), and each entry is counted once
(`reportOf_total`).
-/

namespace SeedStream

/-! ## What words denote -/

namespace Value

/-- The integer that a word of a manifest denotes: the word is an integer, or a text that holds one in any base. -/
def word? : Value → Option Int
  | .text t => (Integer.parse .marked t.chars).toOption
  | v => v.integer?

/-- The integers that a list of words denotes. -/
def words? : Value → Option (List Int)
  | .list items => items.mapM word?
  | _ => none

theorem toInteger_of_integer? {v : Value} {i : Int} (integer : v.integer? = some i) : v.toInteger = .ok i := by
  cases v with
  | bool | int =>
    cases integer
    rfl
  | _ => cases integer

/-- The text of a word denotes the number that the word is. -/
theorem word?_hex (w : Word) : (text (Text.ofString (Word.hex w))).word? = some (w.toNat : Int) := by
  rw [word?, Text.ofString, Text.chars_ofChars, Word.parse_hex]
  rfl

theorem words?_hex (ws : List Word) :
    (ofStrings (ws.map Word.hex)).words? = some (ws.map fun w => (w.toNat : Int)) := by
  rw [ofStrings, words?]
  induction ws with
  | nil => rfl
  | cons w rest ih =>
    rw [List.map_cons, List.map_cons, List.mapM_cons, word?_hex, ih]
    rfl

end Value

namespace Manifest

variable {v : Value} {i : Int}

theorem wordText_of_word? (denotes : v.word? = some i) : wordText v = .ok (Word.hexText i) := by
  cases v with
  | text t =>
    rw [Value.word?] at denotes
    have read : Value.integerOfText .marked t = .ok i := by
      rw [Value.integerOfText]
      cases parsed : Integer.parse .marked t.chars with
      | error e =>
        rw [parsed] at denotes
        cases denotes
      | ok j =>
        rw [parsed] at denotes
        cases denotes
        rfl
    rw [wordText]
    simp only [read]
    rfl
  | bool | int =>
    cases denotes
    rfl
  | _ => cases denotes

theorem wordTexts_of_words? {integers : List Int} (denotes : v.words? = some integers) :
    wordTexts v = .ok (integers.map Word.hexText) := by
  cases v with
  | list items =>
    rw [Value.words?] at denotes
    change items.mapM wordText = _
    induction items generalizing integers with
    | nil =>
      cases denotes
      rfl
    | cons word rest ih =>
      rw [List.mapM_cons] at denotes ⊢
      obtain ⟨i, first, others⟩ := Option.bind_eq_some_iff.mp denotes
      obtain ⟨is, more, same⟩ := Option.bind_eq_some_iff.mp others
      cases same
      rw [wordText_of_word? first, ih more]
      rfl
  | _ => cases denotes

theorem wordTexts_hex (ws : List Word) : wordTexts (.ofStrings (ws.map Word.hex)) = .ok (ws.map Word.hex) := by
  rw [wordTexts_of_words? (Value.words?_hex ws), List.map_map]
  rfl

/-! ## What entries say -/

/-- What an entry says: that a seed has these outputs first, and perhaps that it has this state. -/
structure Statement where
  seed : Int
  outputs : List Int
  state : Option (List Int)

namespace Statement

/-- The seed has these outputs first, and it has the state, if one is told. -/
def IsTrue (s : Statement) : Prop :=
  s.outputs = ((State.ofSeed s.seed).outputs s.outputs.length).map (fun w => (w.toNat : Int)) ∧
    ∀ words ∈ s.state, words = (State.ofSeed s.seed).words.map fun w => (w.toNat : Int)

instance : DecidablePred IsTrue := fun _ => inferInstanceAs (Decidable (_ ∧ _))

/-- What the statement says beside the state and the outputs that the seed has. -/
def mismatch (s : Statement) : Mismatch where
  seed := s.seed
  expectedState :=
    match s.state with
    | some words => words.map Word.hexText
    | none => (State.ofSeed s.seed).words.map Word.hex
  expectedOutputs := s.outputs.map Word.hexText
  actualState := (State.ofSeed s.seed).words.map Word.hex
  actualOutputs := ((State.ofSeed s.seed).outputs s.outputs.length).map Word.hex

/-- What becomes of an entry with this statement. -/
def verdict (s : Statement) : Verdict :=
  if s.IsTrue then .verified else .mismatched s.mismatch

/-- Words have the texts of integers exactly if they are the integers. -/
theorem texts_eq_iff (ws : List Word) (integers : List Int) :
    ws.map Word.hex = integers.map Word.hexText ↔ integers = ws.map fun w => (w.toNat : Int) := by
  have texts : ws.map Word.hex = (ws.map fun w => (w.toNat : Int)).map Word.hexText := by
    rw [List.map_map]
    rfl
  rw [texts, (List.map_injective_iff.mpr Word.hexText_injective).eq_iff, eq_comm]

theorem isTrue_iff (s : Statement) :
    s.IsTrue ↔ s.mismatch.actualOutputs = s.mismatch.expectedOutputs ∧
      s.mismatch.actualState = s.mismatch.expectedState := by
  obtain ⟨seed, outputs, state⟩ := s
  unfold IsTrue mismatch
  rw [texts_eq_iff]
  cases state with
  | none => simp
  | some words => simp [texts_eq_iff]

end Statement

/-- The entry is an object without a seed or without outputs. -/
def isLacking : Value → Bool
  | .object fields => (Value.field? "seed" fields).isNone || (Value.field? "outputs" fields).isNone
  | _ => false

theorem isLacking_object (fields : List (Text × Value)) :
    isLacking (.object fields) ↔ Value.field? "seed" fields = none ∨ Value.field? "outputs" fields = none := by
  rw [isLacking, Bool.or_eq_true, Option.isNone_iff_eq_none, Option.isNone_iff_eq_none]

/-- What an entry with a seed and outputs says, if its words denote integers. -/
def statement? : Value → Option Statement
  | .object fields => do
    let seed ← (Value.field? "seed" fields).bind Value.integer?
    let outputs ← (Value.field? "outputs" fields).bind Value.words?
    let state ← (Value.field? "state" fields).mapM Value.words?
    return ⟨seed, outputs, state⟩
  | _ => none

/-- The entry lacks its seed or its outputs, or says something of a seed that is not zero. -/
def IsProper (entry : Value) : Prop :=
  isLacking entry ∨ ∃ s, statement? entry = some s ∧ s.seed ≠ 0

/-- What becomes of a proper entry. -/
def verdictOf (entry : Value) : Verdict :=
  match statement? entry with
  | none => .missing
  | some s => s.verdict

theorem statement?_of_isLacking {entry : Value} (lacking : isLacking entry) : statement? entry = none := by
  cases entry with
  | object fields =>
    rw [statement?]
    rcases (isLacking_object fields).mp lacking with seed | outputs
    · simp [seed]
    · simp [outputs]
  | _ => rfl

/-- The parts of a statement stand in the fields of its entry. -/
theorem statement?_eq_some {entry : Value} {s : Statement} (said : statement? entry = some s) :
    ∃ fields seed outputs, entry = .object fields ∧ Value.field? "seed" fields = some seed ∧
      Value.field? "outputs" fields = some outputs ∧ seed.integer? = some s.seed ∧ outputs.words? = some s.outputs ∧
        (Value.field? "state" fields).mapM Value.words? = some s.state := by
  cases entry with
  | object fields =>
    rw [statement?] at said
    obtain ⟨i, seeded, said⟩ := Option.bind_eq_some_iff.mp said
    obtain ⟨seed, seedField, integer⟩ := Option.bind_eq_some_iff.mp seeded
    obtain ⟨is, listed, said⟩ := Option.bind_eq_some_iff.mp said
    obtain ⟨outputs, outputsField, words⟩ := Option.bind_eq_some_iff.mp listed
    obtain ⟨state, told, same⟩ := Option.bind_eq_some_iff.mp said
    cases same
    exact ⟨fields, seed, outputs, rfl, seedField, outputsField, integer, words, told⟩
  | _ => cases said

/-! ## The check of an entry -/

theorem compareEntry_of_statement {fields : List (Text × Value)} {seed outputs : Value} {s : Statement}
    (integer : seed.integer? = some s.seed) (words : outputs.words? = some s.outputs)
    (told : (Value.field? "state" fields).mapM Value.words? = some s.state) (proper : s.seed ≠ 0) :
    compareEntry fields seed outputs = .ok s.verdict := by
  have made : Reference.make s.seed (s.outputs.map Word.hexText).length =
      .ok ⟨s.seed, s.mismatch.actualState, s.mismatch.actualOutputs⟩ := by
    rw [Reference.make_eq_ok_iff]
    refine ⟨proper, ?_⟩
    rw [Reference.describe, List.length_map, Int.toNat_natCast]
    rfl
  have state : wordTexts ((Value.field? "state" fields).getD (Value.ofStrings s.mismatch.actualState)) =
      .ok s.mismatch.expectedState := by
    cases given : Value.field? "state" fields with
    | none =>
      rw [given] at told
      have untold : s.state = none := (Option.some.inj told).symm
      rw [Option.getD_none, Statement.mismatch, untold]
      exact wordTexts_hex _
    | some v =>
      rw [given] at told
      obtain ⟨integers, denoted, same⟩ := Option.map_eq_some_iff.mp told
      rw [Option.getD_some, wordTexts_of_words? denoted, Statement.mismatch, ← same]
  rw [compareEntry, wordTexts_of_words? words, Value.toInteger_of_integer? integer]
  simp only [bind, Except.bind, made, state]
  by_cases true : s.IsTrue
  · rw [Statement.verdict, if_pos true]
    exact if_pos (s.isTrue_iff.mp true)
  · rw [Statement.verdict, if_neg true]
    exact if_neg (mt s.isTrue_iff.mpr true)

theorem checkEntry_of_isProper {entry : Value} (proper : IsProper entry) : checkEntry entry = .ok (verdictOf entry) := by
  rcases proper with lacking | ⟨s, said, nonzero⟩
  · rw [verdictOf, statement?_of_isLacking lacking]
    cases entry with
    | object fields =>
      rw [checkEntry]
      simp only [hasName, bind, Except.bind]
      rcases (isLacking_object fields).mp lacking with seed | outputs
      · rw [seed]
        rfl
      · rw [outputs]
        cases Value.field? "seed" fields <;> rfl
    | _ => cases lacking
  · obtain ⟨fields, seed, outputs, rfl, seedField, outputsField, integer, words, told⟩ := statement?_eq_some said
    rw [verdictOf, said, checkEntry]
    simp only [hasName, seedField, outputsField, bind, Except.bind, Option.isSome_some, Bool.not_true,
      Bool.false_eq_true, if_false]
    exact compareEntry_of_statement integer words told nonzero

/-! ## The report -/

/-- Each entry is counted once. -/
theorem reportOf_total (checked : List (Value × Verdict)) :
    (reportOf checked).verified + (reportOf checked).missing.length + (reportOf checked).mismatched.length =
      (reportOf checked).total := by
  unfold reportOf
  induction checked with
  | nil => rfl
  | cons c rest ih =>
    obtain ⟨entry, verdict⟩ := c
    cases verdict with
    | verified | missing | mismatched m =>
      simp at ih ⊢
      omega

/-- A report is clean exactly if every entry is verified. -/
theorem isClean_reportOf (checked : List (Value × Verdict)) :
    (reportOf checked).isClean ↔ (reportOf checked).verified = (reportOf checked).total := by
  have counted := reportOf_total checked
  rw [Report.isClean, Bool.and_eq_true, List.isEmpty_iff_length_eq_zero, List.isEmpty_iff_length_eq_zero]
  omega

theorem reportOf_verdicts {entries : List Value} (proper : ∀ entry ∈ entries, IsProper entry) :
    reportOf (entries.map fun entry => (entry, verdictOf entry)) =
      ⟨entries.length, (entries.filterMap statement?).countP (·.IsTrue), entries.filter isLacking,
        ((entries.filterMap statement?).filter fun s => ¬ s.IsTrue).map Statement.mismatch⟩ := by
  unfold reportOf
  induction entries with
  | nil => rfl
  | cons entry rest ih =>
    obtain ⟨first, others⟩ := List.forall_mem_cons.mp proper
    have more := ih others
    simp only [Report.mk.injEq, List.length_map] at more
    obtain ⟨-, verified, missing, mismatched⟩ := more
    simp only [Report.mk.injEq, List.map_cons, List.length_cons, List.length_map, List.countP_cons, List.filterMap_cons,
      verified, missing, mismatched]
    rcases first with lacking | ⟨s, said, -⟩
    · simp [verdictOf, statement?_of_isLacking lacking, lacking]
    · have given : ¬ isLacking entry := fun lacking => by
        rw [statement?_of_isLacking lacking] at said
        cases said
      by_cases true : s.IsTrue
      · simp [verdictOf, Statement.verdict, said, given, true]
      · simp [verdictOf, Statement.verdict, said, given, true]

/-- The check of proper entries reports what becomes of each. -/
theorem checkContent_of_isProper {fields : List (Text × Value)} {entries : List Value}
    (listed : ((Value.field? "entries" fields).getD (.list [])).items = .ok entries)
    (proper : ∀ entry ∈ entries, IsProper entry) :
    checkContent (.object fields) = .ok (reportOf (entries.map fun entry => (entry, verdictOf entry))) := by
  have verdicts : entries.mapM checkEntry = .ok (entries.map verdictOf) := by
    have taken := @Value.mapM_map_eq_ok _ _ _ id checkEntry verdictOf entries fun entry member =>
      checkEntry_of_isProper (proper entry member)
    rwa [List.map_id] at taken
  rw [checkContent]
  simp only [bind, Except.bind, listed, verdicts, List.map_prod_left_eq_zip]
  rfl

end Manifest

end SeedStream
