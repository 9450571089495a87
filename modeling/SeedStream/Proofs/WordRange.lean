import SeedStream.Proofs.Draws
import SeedStream.Proofs.Results
import SeedStream.Proofs.Wide

/-!
# The range of words

On integers of any size (`Wide`) nothing but the cuts keeps the numbers at 32 bits, and an exclusive or is not
cut. From four words each operation leads to four words again and hands out words only, because it does on
them what the generator on words does. So every run of wide numbers is a run of words, from its seed on
(`Wide.runs_in_range`).
-/

namespace SeedStream.Wide

/-! ## Words as wide numbers -/

/-- The integer is a number of 32 bits without a sign. -/
def IsWord (i : Int) : Prop :=
  0 ≤ i ∧ i < 2 ^ 32

/-- A state of exactly four words. -/
def IsState (s : List Int) : Prop :=
  s.length = 4 ∧ ∀ i ∈ s, IsWord i

/-- The number that a word is. -/
def ofWord (w : Word) : Int :=
  w.toNat

/-- The words of a state as numbers. -/
def ofState (s : State) : List Int :=
  s.words.map ofWord

theorem isWord_ofWord (w : Word) : IsWord (ofWord w) :=
  ⟨Int.natCast_nonneg _, Int.ofNat_lt.mpr w.toNat_lt⟩

theorem isState_ofState (s : State) : IsState (ofState s) := by
  refine ⟨rfl, fun i member => ?_⟩
  obtain ⟨w, -, rfl⟩ := List.mem_map.mp member
  exact isWord_ofWord w

/-! ## Arithmetic -/

/-- The low bits of an integer are its remainder, also of a negative one. -/
theorem cut_eq_emod (i : Int) : cut i = i % 0x100000000 := by
  cases i with
  | ofNat n => exact congrArg Int.ofNat (Nat.and_two_pow_sub_one_eq_mod n 32)
  | negSucc n =>
    have bits : Nat.ldiff 0xffffffff n = 2 ^ 32 - (n % 2 ^ 32 + 1) := by
      refine Nat.eq_of_testBit_eq fun k => ?_
      rw [Nat.testBit_ldiff, Nat.testBit_two_pow_sub_succ (Nat.mod_lt n (Nat.two_pow_pos 32)),
        Nat.testBit_mod_two_pow, show 0xffffffff = 2 ^ 32 - 1 from rfl, Nat.testBit_two_pow_sub_one]
      cases decide (k < 32) <;> rfl
    calc cut (Int.negSucc n) = ((Nat.ldiff 0xffffffff n : Nat) : Int) := rfl
      _ = Int.negSucc n % 0x100000000 := by rw [bits]; omega

theorem cut_eq_ofWord (i : Int) : cut i = ofWord (Word.ofInt i) := by
  rw [cut_eq_emod, ofWord, Word.cast_toNat_ofInt]

theorem cut_natCast (n : Nat) : cut n = ofWord (UInt32.ofNat n) := by
  rw [cut_eq_emod, ofWord, UInt32.toNat_ofNat']
  exact (Int.natCast_emod n _).symm

theorem cut_ofWord (w : Word) : cut (ofWord w) = ofWord w := by
  rw [ofWord, cut_natCast, UInt32.ofNat_toNat, ofWord]

theorem store_ofWord (w : Word) : store (ofWord w) = .ok (ofWord w) :=
  if_pos (isWord_ofWord w)

theorem xor_ofWord (a b : Word) : Int.xor (ofWord a) (ofWord b) = ofWord (a ^^^ b) :=
  congrArg Int.ofNat (UInt32.toNat_xor a b).symm

theorem add_ofWord (a b : Word) : cut (ofWord a + ofWord b) = ofWord (a + b) := by
  have sum : ofWord a + ofWord b = ((a.toNat + b.toNat : Nat) : Int) := rfl
  rw [sum, cut_natCast, UInt32.ofNat_add, UInt32.ofNat_toNat, UInt32.ofNat_toNat]

theorem mul_ofWord (a b : Word) : cut (ofWord a * ofWord b) = ofWord (a * b) := by
  have product : ofWord a * ofWord b = ((a.toNat * b.toNat : Nat) : Int) := rfl
  rw [product, cut_natCast, UInt32.ofNat_mul, UInt32.ofNat_toNat, UInt32.ofNat_toNat]

theorem ofNat_shiftRight {k : Nat} (small : k < 32) (w : Word) :
    UInt32.ofNat (w.toNat >>> k) = w >>> UInt32.ofNat k := by
  have amount : (UInt32.ofNat k).toNat = k := UInt32.toNat_ofNat_of_lt' (Nat.lt_trans small (by decide))
  calc UInt32.ofNat (w.toNat >>> k) = UInt32.ofNat (w >>> UInt32.ofNat k).toNat := by
        rw [UInt32.toNat_shiftRight, amount, Nat.mod_eq_of_lt small]
    _ = w >>> UInt32.ofNat k := UInt32.ofNat_toNat

theorem shiftRight_ofWord {k : Nat} (small : k < 32) (w : Word) :
    ofWord w >>> k = ofWord (w >>> UInt32.ofNat k) := by
  have fits : w.toNat >>> k < UInt32.size := Nat.lt_of_le_of_lt (Nat.shiftRight_le _ _) w.toNat_lt
  rw [← ofNat_shiftRight small, ofWord, ofWord, UInt32.toNat_ofNat_of_lt' fits]
  rfl

theorem shiftLeft_ofWord {k : Nat} (small : k < 32) (w : Word) :
    cut (ofWord w <<< k) = ofWord (w <<< UInt32.ofNat k) := by
  have shifted : ofWord w <<< k = ((w.toNat <<< k : Nat) : Int) := rfl
  rw [shifted, cut_natCast, UInt32.ofNat_shiftLeft _ _ small, UInt32.ofNat_toNat]

theorem rotateLeft_ofWord {k : Nat} (positive : 0 < k) (small : k < 32) (w : Word) :
    rotateLeft (ofWord w) k = ofWord (Word.rotateLeft w (UInt32.ofNat k)) := by
  have joined : Int.lor (ofWord w <<< k) (ofWord w >>> (32 - k)) =
      ((w.toNat <<< k ||| w.toNat >>> (32 - k) : Nat) : Int) := rfl
  have rest : UInt32.ofNat (32 - k) = 32 - UInt32.ofNat k := UInt32.ofNat_sub (Nat.le_of_lt small)
  rw [rotateLeft, cut_ofWord, joined, cut_natCast, UInt32.ofNat_or, UInt32.ofNat_shiftLeft _ _ small,
    UInt32.ofNat_toNat, ofNat_shiftRight (Nat.sub_lt (by decide) positive), rest, Word.rotateLeft]

theorem fold_ofWord {k : Nat} (small : k < 32) (w : Word) :
    fold k (ofWord w) = ofWord (Seed.fold (UInt32.ofNat k) w) := by
  rw [fold, shiftRight_ofWord small, xor_ofWord, Seed.fold]

theorem mix_ofWord (w : Word) : mix (ofWord w) = ofWord (Seed.mix w) := by
  have first : cut (fold 15 (ofWord w) * 0x85ebca6b) = ofWord (Seed.fold 15 w * 0x85ebca6b) := by
    rw [fold_ofWord (by decide)]
    exact mul_ofWord _ 0x85ebca6b
  have second (v : Word) : cut (fold 13 (ofWord v) * 0xc2b2ae35) = ofWord (Seed.fold 13 v * 0xc2b2ae35) := by
    rw [fold_ofWord (by decide)]
    exact mul_ofWord _ 0xc2b2ae35
  rw [mix, first, second, fold_ofWord (by decide)]
  rfl

/-! ## The core generator -/

theorem seeded_eq_ofState (seed : Int) : seeded seed = ofState (State.ofSeed seed) := by
  have next (w : Word) : cut (ofWord w + 0x9e3779b9) = ofWord (w + Seed.distance) := add_ofWord w Seed.distance
  have slots (w : Word) : slotsFrom (ofWord w) 4 = ofState (State.ofWord w) := by
    have twice : w + Seed.distance + Seed.distance = w + 2 * Seed.distance := by grind
    have thrice : w + 2 * Seed.distance + Seed.distance = w + 3 * Seed.distance := by grind
    have last : w + 3 * Seed.distance + Seed.distance = w + 4 * Seed.distance := by grind
    simp only [slotsFrom, next, mix_ofWord, twice, thrice, last]
    rfl
  have words : (ofState (State.ofSeed seed)).map cut = ofState (State.ofSeed seed) := by
    rw [ofState, List.map_map]
    exact List.map_congr_left fun w _ => cut_ofWord w
  rw [seeded, cut_eq_ofWord, slots]
  exact words

theorem step_ofState (s : State) : step (ofState s) = .ok (ofWord s.output, ofState s.next) := by
  have output : cut (rotateLeft (cut (ofWord s.s1 * 5)) 7 * 9) = ofWord s.output := by
    have fifth : cut (ofWord s.s1 * 5) = ofWord (s.s1 * 5) := mul_ofWord s.s1 5
    rw [fifth, rotateLeft_ofWord (Nat.succ_pos 6) (by decide)]
    exact mul_ofWord _ 9
  have shifted : cut (ofWord s.s1 <<< (9 : Nat)) = ofWord (s.s1 <<< 9) := shiftLeft_ofWord (by decide) s.s1
  have last (w : Word) : rotateLeft (ofWord w) 11 = ofWord (Word.rotateLeft w 11) :=
    rotateLeft_ofWord (by decide) (by decide) w
  simp only [ofState, State.words, List.map_cons, List.map_nil, step, output, shifted, xor_ofWord, last, State.next]

/-- A step does not bring back a state that has left the range. -/
example : step [2 ^ 40, 0, 0, 0] = .ok (0, [2 ^ 40, 2 ^ 40, 2 ^ 40, 0]) := rfl

theorem block_ofState (n : Nat) (s : State) :
    block n (ofState s) = .ok ((State.outputs n s).map ofWord, ofState (State.advance n s)) := by
  induction n generalizing s with
  | zero => rfl
  | succ n ih =>
    rw [block, step_ofState, ok_bind]
    dsimp only
    rw [store_ofWord, ok_bind, ih, ok_bind, State.outputs_succ, List.map_cons, State.advance]

theorem stateOfItems_of_length_ne (fault : Nat → ValueFault) {items : List Value} (other : items.length ≠ 4) :
    Request.stateOfItems fault items = .error (.value (fault items.length)) := by
  unfold Request.stateOfItems
  split
  · exact absurd rfl other
  · rfl

theorem replaced_eq (words : Value) : replaced words = (Request.replacedState words).map ofState := by
  rw [replaced, Request.replacedState]
  cases words.sizedItems with
  | error e => rfl
  | ok items =>
    rw [ok_bind, ok_bind]
    by_cases four : items.length = 4
    · obtain ⟨a, b, c, d, rfl⟩ : ∃ a b c d, items = [a, b, c, d] :=
        match items, four with
        | [a, b, c, d], _ => ⟨a, b, c, d, rfl⟩
      rw [if_neg (not_not_intro four), Request.stateOfItems, List.mapM_cons, List.mapM_cons, List.mapM_cons,
        List.mapM_cons, List.mapM_nil]
      rcases a.toInteger with _ | i
      · rfl
      rcases b.toInteger with _ | j
      · rfl
      rcases c.toInteger with _ | k
      · rfl
      rcases d.toInteger with _ | l
      · rfl
      have cuts : [i, j, k, l].map cut = [i, j, k, l].map fun n => ofWord (Word.ofInt n) :=
        List.map_congr_left fun n _ => cut_eq_ofWord n
      exact congrArg Except.ok cuts
    · rw [if_pos four, stateOfItems_of_length_ne _ four]
      rfl

/-- An answer in words as one in wide numbers. -/
def ofAnswer : SeedStream.Answer → Answer
  | .nothing => .nothing
  | .word w => .number (ofWord w)
  | .words ws => .numbers (ws.map ofWord)
  | .real x => .real x

theorem isWord_of_mem_values {a : SeedStream.Answer} {i : Int} (member : i ∈ (ofAnswer a).values) : IsWord i := by
  cases a with
  | word w =>
    rw [List.mem_singleton.mp member]
    exact isWord_ofWord w
  | words ws =>
    obtain ⟨w, -, rfl⟩ := List.mem_map.mp member
    exact isWord_ofWord w
  | nothing => cases member
  | real x => cases member

theorem performCore_ofState [Memory] (op : CoreOperation) (s : State) :
    performCore op (ofState s) = .ok ((s.perform op).1.map ofAnswer, ofState (s.perform op).2) := by
  cases op with
  | seed seed =>
    simp only [performCore, State.perform, Request.seededState]
    cases seed.asBits with
    | error e => rfl
    | ok i =>
      show Except.ok (Except.ok Answer.nothing, seeded i) = _
      rw [seeded_eq_ofState]
      rfl
  | replace words =>
    simp only [performCore, State.perform, replaced_eq]
    cases Request.replacedState words <;> rfl
  | next => rw [performCore, step_ofState, ok_bind]; rfl
  | fill count =>
    simp only [performCore, State.perform]
    cases Generator.coreCount count with
    | error e => rfl
    | ok n =>
      simp only [block_ofState, ok_bind, State.run_fst, State.run_snd]
      rfl

theorem performCoreAll_ofState [Memory] (ops : List CoreOperation) (s : State) :
    performCoreAll ops (ofState s) =
      .ok ((s.performAll ops).1.map (·.map ofAnswer), ofState (s.performAll ops).2) := by
  induction ops generalizing s with
  | nil => rfl
  | cons op rest ih =>
    rw [performCoreAll, performCore_ofState, ok_bind]
    dsimp only
    rw [ih, ok_bind]
    rfl

/-! ## The dual-mode generator -/

namespace Dual

open SeedStream.Generator (acceptLimit)

variable {σ : Type} [EntropySource σ]

/-- A generator with its core in wide numbers. -/
def ofGenerator (g : Generator σ) : Dual σ :=
  ⟨g.mode, ofState g.core, g.source⟩

/-- A result in words as one in wide numbers. -/
def ofResult {α β : Type} (f : α → β) (r : Except Failure α × Generator σ) : Except Failure β × Dual σ :=
  (r.1.map f, ofGenerator r.2)

theorem setSeed_ofGenerator (seed : Int) (g : Generator σ) :
    (ofGenerator g).setSeed seed = ofGenerator (g.setSeed seed) := by
  have zero : cut seed = 0 ↔ Word.ofInt seed = 0 := by
    rw [cut_eq_ofWord, ofWord, ← UInt32.toNat_inj]
    exact Int.natCast_eq_zero
  have core : seeded (cut seed) = ofState (State.ofSeed seed) := by
    rw [seeded_eq_ofState, State.ofSeed, cut_eq_ofWord, ofWord, Word.ofInt_toNat, State.ofSeed]
  by_cases h : Word.ofInt seed = 0
  · rw [setSeed, if_pos (zero.mpr h), Generator.setSeed, if_pos h]
    rfl
  · rw [setSeed, if_neg (zero.not.mpr h), core, Generator.setSeed, if_neg h]
    rfl

theorem make_eq_ofGenerator (source : σ) (seed : Option Int) :
    make source seed = ofGenerator (Generator.make source seed) := by
  have start : (⟨.native, seeded 1, EntropySource.reseed source⟩ : Dual σ) = ofGenerator (.ofSource source) := by
    rw [seeded_eq_ofState]
    rfl
  cases seed with
  | none => exact start
  | some i => exact (congrArg (setSeed i) start).trans (setSeed_ofGenerator i _)

theorem draw_ofGenerator (g : Generator σ) : (ofGenerator g).draw = .ok (ofResult ofWord g.draw) := by
  obtain ⟨mode, core, source⟩ := g
  cases mode with
  | deterministic =>
    rw [draw]
    dsimp only [ofGenerator]
    rw [step_ofState]
    rfl
  | native =>
    rw [Generator.draw_native rfl, draw]
    dsimp only [ofGenerator]
    rcases EntropySource.draw source with ⟨e | i, later⟩
    · rfl
    · exact congrArg (fun n => Except.ok (Except.ok n, (⟨.native, ofState core, later⟩ : Dual σ))) (cut_eq_ofWord i)

theorem storeFrom_ofGenerator (done : List Word) (n : Nat) (g : Generator σ) :
    storeFrom (done.map ofWord) n (ofGenerator g) =
      .ok (ofResult (List.map ofWord) (Generator.fillFrom done n g)) := by
  induction n generalizing done g with
  | zero => exact congrArg (fun ws => Except.ok (Except.ok ws, ofGenerator g)) List.map_reverse.symm
  | succ n ih =>
    rw [storeFrom, draw_ofGenerator, ok_bind, Generator.fillFrom]
    rcases g.draw with ⟨e | w, later⟩
    · rfl
    · dsimp only [ofResult, Except.map]
      rw [store_ofWord, ok_bind]
      exact ih (w :: done) later

theorem fill_ofGenerator (n : Nat) (g : Generator σ) :
    (ofGenerator g).fill n = .ok (ofResult (List.map ofWord) (g.fill n)) := by
  obtain ⟨mode, core, source⟩ := g
  cases mode with
  | deterministic =>
    rw [fill]
    dsimp only [ofGenerator]
    rw [block_ofState, ok_bind, Generator.fill]
    dsimp only
    rw [State.run_fst, State.run_snd]
    rfl
  | native => exact storeFrom_ofGenerator [] n ⟨.native, core, source⟩

theorem drawUntil_ofGenerator {accepts : Int → Bool} {acceptsWord : Word → Bool}
    (same : ∀ w, accepts (ofWord w) = acceptsWord w) (fuel : Nat) (g : Generator σ) :
    (ofGenerator g).drawUntil accepts fuel = .ok ((g.drawUntil acceptsWord fuel).map (ofResult ofWord)) := by
  induction fuel generalizing g with
  | zero => rfl
  | succ fuel ih =>
    rw [drawUntil, draw_ofGenerator, ok_bind, Generator.drawUntil]
    rcases g.draw with ⟨e | w, later⟩
    · rfl
    · dsimp only [ofResult, Except.map]
      rw [same]
      cases accepted : acceptsWord w with
      | true => simp only [if_true]; rfl
      | false => simpa only [Bool.false_eq_true, if_false] using ih later

theorem below_ofGenerator (n : Nat) (g : Generator σ) :
    (ofGenerator g).below n = .ok ((g.below n).map (ofResult ofWord)) := by
  have accepted (w : Word) : decide (ofWord w < acceptLimit n) = decide (w.toNat < acceptLimit n) :=
    decide_eq_decide.mpr Int.ofNat_lt
  have remainder (w : Word) : ofWord w % n = ofWord (UInt32.ofNat (w.toNat % n)) := by
    have small : w.toNat % n < UInt32.size := Nat.lt_of_le_of_lt (Nat.mod_le _ _) w.toNat_lt
    rw [ofWord, ofWord, UInt32.toNat_ofNat_of_lt' small]
    rfl
  rw [below, drawUntil_ofGenerator accepted, ok_bind, Generator.below, Option.map_map, Option.map_map]
  refine congrArg (fun f => Except.ok (Option.map f _)) (funext fun r => ?_)
  obtain ⟨_ | w, later⟩ := r
  · rfl
  · exact congrArg (fun i => (Except.ok i, ofGenerator later)) (remainder w)

theorem belowReal_ofGenerator (num den : Nat) (g : Generator σ) :
    (ofGenerator g).belowReal num den = .ok ((g.belowReal num den).map (ofResult id)) := by
  rw [belowReal, drawUntil_ofGenerator fun _ => rfl, ok_bind, Generator.belowReal, Option.map_map, Option.map_map]
  refine congrArg (fun f => Except.ok (Option.map f _)) (funext fun r => ?_)
  obtain ⟨_ | w, later⟩ := r <;> rfl

theorem fraction_ofGenerator (g : Generator σ) :
    (ofGenerator g).fraction = .ok (ofResult Fraction.toDouble g.fraction) := by
  rw [fraction, draw_ofGenerator, ok_bind, Generator.fraction]
  rcases g.draw with ⟨_ | a, later⟩
  · rfl
  · dsimp only [ofResult, Except.map]
    rw [draw_ofGenerator, ok_bind]
    rcases later.draw with ⟨_ | b, last⟩
    · rfl
    · dsimp only [ofResult, Except.map]
      rw [shiftRight_ofWord (by decide), shiftRight_ofWord (by decide)]
      rfl

theorem perform_ofGenerator [Memory] (op : Operation) (g : Generator σ) :
    (ofGenerator g).perform op = .ok ((g.perform op).map (ofResult ofAnswer)) := by
  cases op with
  | setSeed seed =>
    rw [perform, Generator.perform]
    cases seed.asIndex with
    | error e => rfl
    | ok i => exact congrArg (fun h => Except.ok (some (Except.ok Answer.nothing, h))) (setSeed_ofGenerator i g)
  | next =>
    rw [perform, draw_ofGenerator, ok_bind, Generator.perform]
    rcases g.draw with ⟨_ | w, later⟩ <;> rfl
  | fill count =>
    rw [perform, Generator.perform]
    dsimp only [ofGenerator]
    cases Generator.fillCount g.mode count with
    | error e => rfl
    | ok n =>
      dsimp only
      rw [← ofGenerator, fill_ofGenerator, ok_bind]
      rcases g.fill n with ⟨_ | ws, later⟩ <;> rfl
  | below bound =>
    rw [perform, Generator.perform]
    cases Generator.boundOf bound with
    | error e => rfl
    | ok b =>
      cases b with
      | whole n =>
        dsimp only
        rw [below_ofGenerator, ok_bind, Option.map_map, Option.map_map]
        refine congrArg (fun f => Except.ok (Option.map f _)) (funext fun r => ?_)
        obtain ⟨_ | w, later⟩ := r <;> rfl
      | real num den =>
        dsimp only
        rw [belowReal_ofGenerator, ok_bind, Option.map_map, Option.map_map]
        refine congrArg (fun f => Except.ok (Option.map f _)) (funext fun r => ?_)
        obtain ⟨_ | w, later⟩ := r <;> rfl
  | fraction =>
    rw [perform, fraction_ofGenerator, ok_bind, Generator.perform]
    rcases g.fraction with ⟨_ | f, later⟩ <;> rfl

/-- A run in words as one in wide numbers. -/
def ofRun (r : List (Except Failure SeedStream.Answer) × Generator σ) : List (Except Failure Answer) × Dual σ :=
  (r.1.map (·.map ofAnswer), ofGenerator r.2)

theorem performAll_ofGenerator [Memory] (ops : List Operation) (g : Generator σ) :
    (ofGenerator g).performAll ops = .ok ((g.performAll ops).map ofRun) := by
  induction ops generalizing g with
  | nil => rfl
  | cons op rest ih =>
    rw [performAll, perform_ofGenerator, ok_bind, Generator.performAll]
    cases g.perform op with
    | none => rfl
    | some r =>
      dsimp only [Option.map_some, ofResult]
      rw [ih, ok_bind, Option.map_map, Option.map_map]
      rfl

end Dual

/-! ## Runs -/

/-- A run is in range: it ends in a state of four words, and every number it has handed out is a word. -/
structure InRange (answers : List (Except Failure Answer)) (s : List Int) : Prop where
  state : IsState s
  numbers (a : Answer) (given : .ok a ∈ answers) (i : Int) (value : i ∈ a.values) : IsWord i

theorem inRange_ofAnswer (answers : List (Except Failure SeedStream.Answer)) (s : State) :
    InRange (answers.map (·.map ofAnswer)) (ofState s) := by
  refine ⟨isState_ofState s, fun a given i value => ?_⟩
  obtain ⟨_ | b, -, same⟩ := List.mem_map.mp given
  · cases same
  · cases same
    exact isWord_of_mem_values value

/-- Whatever is asked of the core generator from a seed on, and of the dual-mode generator over a source of
    any integers, no step finds a state too short and no array of words is given a number that is none. The
    state is always one of four words, every number handed out is a word, and the run is that of the
    generator on words. A row of another number of words is refused as a state, and the state stays. -/
theorem runs_in_range [Memory] :
    (∀ (seed : Int) (ops : List CoreOperation), ∃ answers s,
      performCoreAll ops (seeded seed) = .ok (answers, s) ∧ InRange answers s ∧
        answers = ((State.ofSeed seed).performAll ops).1.map (·.map ofAnswer) ∧
        s = ofState ((State.ofSeed seed).performAll ops).2) ∧
    (∀ (σ : Type) [EntropySource σ] (source : σ) (first : Option Int) (ops : List Operation), ∃ r?,
      (Dual.make source first).performAll ops = .ok r? ∧ (∀ r ∈ r?, InRange r.1 r.2.core) ∧
        r? = ((Generator.make source first).performAll ops).map Dual.ofRun) ∧
    ∀ (words : Value) (items : List Value), words.sizedItems = .ok items → items.length ≠ 4 →
      (∀ s, performCore (.replace words) s = .ok (.error (.value (.wordCount items.length)), s)) ∧
        ∀ s : State, s.perform (.replace words) = (.error (.value (.wordCount items.length)), s) := by
  refine ⟨fun seed ops => ?_, fun σ _ source first ops => ?_, fun words items sized other => ?_⟩
  · refine ⟨_, _, ?_, inRange_ofAnswer _ _, rfl, rfl⟩
    rw [seeded_eq_ofState, performCoreAll_ofState]
  · refine ⟨_, ?_, fun r member => ?_, rfl⟩
    · rw [Dual.make_eq_ofGenerator, Dual.performAll_ofGenerator]
    · obtain ⟨run, -, rfl⟩ := Option.map_eq_some_iff.mp member
      exact inRange_ofAnswer run.1 run.2.core
  · have refused : Request.replacedState words = .error (.value (.wordCount items.length)) := by
      rw [Request.replacedState, sized, ok_bind, stateOfItems_of_length_ne _ other]
    constructor
    · intro s
      rw [performCore, replaced_eq, refused]
      rfl
    · intro s
      rw [State.perform, refused]

end SeedStream.Wide
