import SeedStream.Proofs.FailedDraws
import SeedStream.Proofs.NativeMode
import SeedStream.Proofs.Results

/-!
# The clocked source

The source that is seeded from the clock is a copy of the core generator: its draws are the outputs of the
state that a clock reading, folded into 32 bits, expands to (`Generator.streams_clocked`). Each time it is
seeded anew it takes the next reading, and nothing else takes one (`Traced.Clocked`). So in native mode a
generator over it gives what one in deterministic mode gives after the folded reading as its seed.
-/

namespace SeedStream

open State

/-! ## Readings of the clock -/

/-- The halves of a clock reading folded into 32 bits. -/
def foldedReading (now : Nat) : Nat :=
  ((now >>> 32) ^^^ now) % 2 ^ 32

theorem Environment.foldClock_natCast (now : Nat) : foldClock now = foldedReading now := by
  have high : ((now : Int) / 0x100000000 % 0x100000000).toNat = (now >>> 32) % 2 ^ 32 := by
    rw [Nat.shiftRight_eq_div_pow]
    omega
  have low : ((now : Int) % 0x100000000).toNat = now % 2 ^ 32 := by omega
  rw [foldClock, high, low, foldedReading, Nat.xor_mod_two_pow]

theorem foldedReading_nonzero {now : Nat} (nonzero : foldedReading now ≠ 0) : ¬ (foldedReading now : Int) ≡ 0 [ZMOD 2 ^ 32] := by
  have small : foldedReading now < 2 ^ 32 := Nat.mod_lt _ (by decide)
  intro zero
  have divides : ((foldedReading now : Int)) % 2 ^ 32 = 0 := zero
  omega

/-- The state that a reading of the clock expands to. -/
def readingState (clock : Nat → Nat) (r : Nat) : State :=
  ofSeed (foldedReading (clock r))

/-- The source that the name `clock` stands for where nothing was taken of the environment yet. -/
def clockedSource (clock : Nat → Nat) (device : Nat → DeviceAnswer) : Native :=
  .ofName .clock (.fresh (fun r => clock r) device)

variable {clock : Nat → Nat} {device : Nat → DeviceAnswer}

theorem start_clocked (r : Nat) :
    Native.start .clocked ⟨fun r => clock r, device, r, 0⟩ =
      ⟨.clocked (readingState clock r), ⟨fun r => clock r, device, r + 1, 0⟩⟩ := by
  rw [readingState, ← Environment.foldClock_natCast]
  rfl

/-! ## Native sources keep their kind -/

namespace Native

theorem choice_start (choice : SourceChoice) (env : Environment) : (start choice env).choice = choice := by
  cases choice <;> rfl

theorem choice_draw (s : Native) : s.draw.2.choice = s.choice := by
  obtain ⟨core, env⟩ := s
  cases core <;> rfl

end Native

namespace Operation

/-- The operation's count of words, if it has one, is an integer that neither mode takes for too large. -/
def HasPlainCount : Operation → Prop
  | fill count => ∃ n : Int, n < 2 ^ 63 ∧ count = .int n
  | _ => True

/-- Both modes take a plain count for the same number of words. -/
theorem HasPlainCount.fillCount_eq [Memory] {count : Value} (plain : (fill count).HasPlainCount) (mode : Mode) :
    Generator.fillCount mode count = Generator.coreCount count := by
  obtain ⟨n, small, rfl⟩ := plain
  have room : ¬ arrayLimit ≤ n := not_le.mpr small
  have index : Value.asIndex (.int n) = .ok n := rfl
  cases mode with
  | deterministic => rfl
  | native =>
    rw [Generator.fillCount, Generator.drawCount, Generator.coreCount, index]
    simp only [ok_bind, if_neg room]

end Operation

namespace Generator

theorem choice_setSeed (seed : Int) (g : Generator Native) : (g.setSeed seed).source.choice = g.source.choice := by
  by_cases zero : seed ≡ 0 [ZMOD 2 ^ 32]
  · rw [setSeed_of_zero zero]
    exact Native.choice_start g.source.choice g.source.env
  · rw [setSeed_of_nonzero zero]

theorem choice_make (source : Native) (first : Option Int) : (make source first).source.choice = source.choice := by
  have start : (ofSource source).source.choice = source.choice := Native.choice_start source.choice source.env
  cases first with
  | none => exact start
  | some i => exact (choice_setSeed i (ofSource source)).trans start

theorem choice_perform [Memory] {op : Operation} {g : Generator Native} {r : Except Failure Answer × Generator Native}
    (done : g.perform op = some r) : r.2.source.choice = g.source.choice := by
  obtain ⟨i, -, moved⟩ | ⟨-, n, moved⟩ := perform_moves done
  · rw [moved]
    exact choice_setSeed i g
  · rw [moved]
    have draw (s : Native) (same : s.choice = g.source.choice) : (EntropySource.draw s).2.choice = g.source.choice :=
      s.choice_draw.trans same
    exact after_induction (P := fun h : Generator Native => h.source.choice = g.source.choice)
      (fun _ => source_draw_induction draw) n rfl

/-! ## The source is a stream -/

/-- The generator with the clocked source in a state. -/
def overClock (g : Generator Native) (s : State) : Generator Native :=
  { g with source := ⟨.clocked s, g.source.env⟩ }

variable {g : Generator Native}

theorem overClock_eq_self {s : State} {env : Environment} (stands : g.source = ⟨.clocked s, env⟩) :
    g.overClock s = g := by
  rw [overClock, stands, ← stands]

theorem streams_clocked (mode : g.mode = .native) : Streams g.overClock := by
  intro s
  have same : (g.overClock s).mode = .native := mode
  have drawn : EntropySource.draw (g.overClock s).source = (.ok s.output.toNat, (g.overClock s.next).source) := rfl
  rw [draw_native same, drawn]
  simp only [Except.map, Word.ofInt_toNat]
  rfl

/-- A folded reading that is not zero, as a seed, leads any generator along the stream of the reading. -/
theorem draws_setSeed_reading {σ : Type} [EntropySource σ] {r : Nat} (nonzero : foldedReading (clock r) ≠ 0) (n : Nat)
    (h : Generator σ) :
    draws n (h.setSeed (foldedReading (clock r))) = (outputs n (readingState clock r)).map .ok ∧
      after n (h.setSeed (foldedReading (clock r))) =
        ⟨.deterministic, advance n (readingState clock r), h.source⟩ := by
  have mode : (⟨.deterministic, readingState clock r, h.source⟩ : Generator σ).mode = .deterministic := rfl
  rw [setSeed_of_nonzero (foldedReading_nonzero nonzero)]
  exact ⟨draws_deterministic n mode, after_deterministic n mode⟩

variable [Memory]

/-- Over the clocked source an operation that brings no seed does what it does on the source's state. -/
theorem perform_clocked (mode : g.mode = .native) {op : Operation} (draws : op.Draws) (plain : op.HasPlainCount)
    (s : State) : (g.overClock s).perform op = (op.onCore s).map fun r => (r.1, g.overClock r.2) := by
  refine (streams_clocked mode).perform (fun seed same => ?_) fun count same => ?_
  · rw [same] at draws
    exact draws.elim
  · rw [same] at plain
    exact plain.fillCount_eq _

theorem performAll_clocked (mode : g.mode = .native) {ops : List Operation}
    (plain : ∀ op ∈ ops, op.Draws ∧ op.HasPlainCount) (s : State) :
    (g.overClock s).performAll ops = (Operation.onCoreAll ops s).map fun r => (r.1, g.overClock r.2) :=
  performAll_of_perform (fun op member s => perform_clocked mode (plain op member).1 (plain op member).2 s) s

/-- Over the clocked source a run answers what it answers in deterministic mode from a core in the same state. -/
theorem answers_clocked_eq_seeded {σ : Type} [EntropySource σ] (native : g.mode = .native) {h : Generator σ}
    (seeded : h.mode = .deterministic) {ops : List Operation} (plain : ∀ op ∈ ops, op.Draws ∧ op.HasPlainCount) :
    ((g.overClock h.core).performAll ops).map Prod.fst = (h.performAll ops).map Prod.fst := by
  have stays : ∀ op ∈ ops, op.StaysSeeded := fun op member => (plain op member).1.staysSeeded
  rw [performAll_clocked native plain, performAll_seeded stays seeded, Option.map_map, Option.map_map]
  rfl

/-- Operations over the clocked source attempt the outputs of its state in order, whatever their counts. -/
theorem attemptInTurn_clocked (mode : g.mode = .native) {ops : List Operation} (draws : ∀ op ∈ ops, op.Draws)
    {s : State} {r : List (Except Failure Answer) × Generator Native} (run : (g.overClock s).performAll ops = some r) :
    ∃ n, Operation.AttemptInTurn ops ((outputs n s).map .ok) r.1 ∧ r.2 = g.overClock (advance n s) := by
  have same : (g.overClock s).mode = .native := mode
  obtain ⟨n, inTurn, last⟩ := attemptInTurn_of_performAll draws same run
  rw [← draws_native n same, (streams_clocked mode).draws] at inTurn
  rw [← after_native n same, (streams_clocked mode).after] at last
  exact ⟨n, inTurn, last⟩

/-! ## Every run has answers -/

/-- Over the clocked source an operation has an answer, in both modes, unless its bound is a double. -/
theorem isSome_perform {op : Operation} (whole : op.HasWholeBound) (clocked : g.source.choice = .clocked) :
    (g.perform op).isSome := by
  cases op with
  | setSeed seed =>
    rw [perform]
    cases seed.asIndex <;> rfl
  | fill count =>
    rw [perform]
    cases fillCount g.mode count <;> rfl
  | next | fraction => rfl
  | below bound =>
    cases mode : g.mode with
    | deterministic =>
      have stays : (Operation.below bound).StaysSeeded := trivial
      rw [perform_seeded stays mode, Option.isSome_map]
      exact Operation.isSome_onCore whole g.core
    | native =>
      have draws : (Operation.below bound).Draws := trivial
      have plain : (Operation.below bound).HasPlainCount := trivial
      obtain ⟨_, core, ⟨_ | t | s, env⟩⟩ := g
      · cases clocked
      · cases clocked
      · have answered := perform_clocked mode draws plain s
        rw [overClock] at answered
        rw [answered, Option.isSome_map]
        exact Operation.isSome_onCore whole s

theorem isSome_performAll {ops : List Operation} (whole : ∀ op ∈ ops, op.HasWholeBound)
    (clocked : g.source.choice = .clocked) : (g.performAll ops).isSome := by
  induction ops generalizing g with
  | nil => rfl
  | cons op rest ih =>
    obtain ⟨first, later⟩ := List.forall_mem_cons.mp whole
    obtain ⟨r, done⟩ := Option.isSome_iff_exists.mp (isSome_perform first clocked)
    rw [performAll, done]
    simp only [Option.isSome_map]
    exact ih later ((choice_perform done).trans clocked)

end Generator

/-! ## Where the source stands -/

/-- A traced clocked source that was last seeded from the reading of a number, counted from zero. What it gave
    since then are the outputs of that reading's state, it stands behind them, and it took no reading more. -/
structure Traced.Clocked (clock : Nat → Nat) (device : Nat → DeviceAnswer) (r : Nat) (t : Traced Native) : Prop where
  gave : t.draws = (outputs t.draws.length (readingState clock r)).map fun w => .ok w.toNat
  stands : t.source = ⟨.clocked (advance t.draws.length (readingState clock r)), ⟨fun r => clock r, device, r + 1, 0⟩⟩

namespace Traced.Clocked

variable {r : Nat} {t : Traced Native}

theorem fresh : (Traced.fresh (clockedSource clock device)).Clocked clock device 0 :=
  ⟨rfl, start_clocked 0⟩

theorem draw (clocked : t.Clocked clock device r) : (EntropySource.draw t).2.Clocked clock device r := by
  let n := t.draws.length
  have drawn : EntropySource.draw t.source =
      (.ok (advance n (readingState clock r)).output.toNat,
        ⟨.clocked (advance n (readingState clock r)).next, ⟨fun r => clock r, device, r + 1, 0⟩⟩) := by
    rw [clocked.stands]
    rfl
  have gave : (EntropySource.draw t).2.draws = t.draws ++ [.ok (advance n (readingState clock r)).output.toNat] :=
    congrArg (fun d => t.draws ++ [d.1]) drawn
  have length : (EntropySource.draw t).2.draws.length = n + 1 := by
    rw [gave, List.length_append]
    rfl
  refine ⟨?_, ?_⟩
  · rw [length, gave, outputs_add_one, List.map_append, ← clocked.gave]
    rfl
  · rw [length, Nat.add_comm, advance_add]
    exact congrArg Prod.snd drawn

theorem reseed (clocked : t.Clocked clock device r) : (EntropySource.reseed t).Clocked clock device (r + 1) := by
  refine ⟨rfl, ?_⟩
  have anew : (EntropySource.reseed t).source = Native.reseed t.source := rfl
  rw [anew, clocked.stands]
  exact start_clocked (r + 1)

end Traced.Clocked

namespace Generator

/-- After every run the source stands in the stream of its last reading, behind the two of the start one for each
    seed that is zero modulo `2 ^ 32`. -/
theorem clocked_of_run [Memory] {first : Option Int} {ops : List Operation}
    {t : List (Except Failure Answer) × Generator (Traced Native)}
    (run : (make (Traced.fresh (clockedSource clock device)) first).performAll ops = some t) :
    t.2.source.Clocked clock device (1 + (Operation.seedsGiven first ops).countP fun i => i ≡ 0 [ZMOD 2 ^ 32]) := by
  refine source_run_induction (P := fun n t => t.Clocked clock device n) ?_ ?_ ?_ run
  · exact Traced.Clocked.fresh.reseed
  · intro _ t clocked
    exact clocked.draw
  · intro _ t clocked
    exact clocked.reseed

/-- Seeds that are zero modulo `2 ^ 32` and draws in native mode leave the core alone. -/
theorem core_of_performAll_native [Memory] {σ : Type} [EntropySource σ] {g : Generator σ} (mode : g.mode = .native)
    {ops : List Operation} (zeros : ∀ i ∈ ops.filterMap Operation.seed?, i ≡ 0 [ZMOD 2 ^ 32])
    {r : List (Except Failure Answer) × Generator σ} (run : g.performAll ops = some r) : r.2.core = g.core := by
  refine (@performAll_induction σ _ _
    (fun seeds h => (∀ i ∈ seeds, i ≡ 0 [ZMOD 2 ^ 32]) → h.mode = .native ∧ h.core = g.core) ?_ ?_
    ops [] g r (fun _ => ⟨mode, rfl⟩) run zeros).2
  · intro seeds h kept zeros
    obtain ⟨native, core⟩ := kept zeros
    rw [draw_native native]
    exact ⟨native, core⟩
  · intro seeds h i kept zeros
    obtain ⟨before, last⟩ := List.forall_mem_append.mp zeros
    rw [setSeed_of_zero (last i (List.mem_singleton_self i))]
    exact ⟨rfl, (kept before).2⟩

/-- A generator over the source that is seeded from the clock, after any run of operations. The source takes a
    reading when it is made, one when the generator is made and one for each seed that is zero modulo `2 ^ 32`,
    and no other. What it gave since the last of these are the outputs of the state that the last reading,
    folded, expands to, and it stands behind them; in native mode the operations that follow answer from the
    outputs that come next. A folded reading that is not zero, given as a seed to any generator, gives the same
    words, and behind them the same answers if counts of words are plain. In deterministic mode nothing is asked
    of the source, and in native mode the core stays as it is. Every run has answers if no bound is a double. -/
theorem clock_source_replays_seeded_streams [Memory] (clock : Nat → Nat) (device : Nat → DeviceAnswer)
    (first : Option Int) (ops : List Operation) :
    clockedSource clock device = ⟨.clocked (readingState clock 0), ⟨fun r => clock r, device, 1, 0⟩⟩ ∧
      ((∀ op ∈ ops, op.HasWholeBound) → ((make (clockedSource clock device) first).performAll ops).isSome) ∧
      ∀ r, (make (clockedSource clock device) first).performAll ops = some r →
        ∃ t last n, (make (Traced.fresh (clockedSource clock device)) first).performAll ops = some t ∧
          mapResult Traced.source t = r ∧
          last = 1 + ((Operation.seedsGiven first ops).countP fun i => i ≡ 0 [ZMOD 2 ^ 32]) ∧
          t.2.source.draws = (outputs n (readingState clock last)).map (fun w => .ok w.toNat) ∧
          r.2.source = ⟨.clocked (advance n (readingState clock last)), ⟨fun r => clock r, device, last + 1, 0⟩⟩ ∧
          (r.2.mode = .native → ∀ later, (∀ op ∈ later, op.Draws) → ∀ u, r.2.performAll later = some u →
            ∃ m, Operation.AttemptInTurn later ((outputs m (advance n (readingState clock last))).map .ok) u.1 ∧
              u.2 = r.2.overClock (advance (n + m) (readingState clock last))) ∧
          (foldedReading (clock last) ≠ 0 → ∀ (σ : Type) [EntropySource σ] (h : Generator σ),
            t.2.source.draws.map (Except.map Word.ofInt) = draws n (h.setSeed (foldedReading (clock last))) ∧
              (r.2.mode = .native → ∀ later, (∀ op ∈ later, op.Draws ∧ op.HasPlainCount) →
                (r.2.performAll later).map Prod.fst =
                  ((after n (h.setSeed (foldedReading (clock last)))).performAll later).map Prod.fst)) ∧
          (r.2.mode = .deterministic → ∀ later, (∀ op ∈ later, op.StaysSeeded) →
            ∀ u, r.2.performAll later = some u → u.2.source = r.2.source) ∧
          (r.2.mode = .native → ∀ later, (∀ i ∈ later.filterMap Operation.seed?, i ≡ 0 [ZMOD 2 ^ 32]) →
            ∀ u, r.2.performAll later = some u → u.2.core = r.2.core) := by
  refine ⟨start_clocked 0, fun whole => ?_, fun r run => ?_⟩
  · exact isSome_performAll whole (choice_make (clockedSource clock device) first)
  · obtain ⟨t, traced, forgotten⟩ := exists_traced_run run
    obtain ⟨gave, stands⟩ := clocked_of_run traced
    generalize 1 + (Operation.seedsGiven first ops).countP _ = last at gave stands ⊢
    generalize length : t.2.source.draws.length = n at gave stands
    have source : r.2.source = t.2.source.source := by
      rw [← forgotten]
      rfl
    rw [← source] at stands
    have itself := overClock_eq_self stands
    refine ⟨t, last, n, traced, forgotten, rfl, gave, stands, ?_, ?_, ?_, ?_⟩
    · intro native later draws u done
      rw [← itself] at done
      obtain ⟨m, inTurn, moved⟩ := attemptInTurn_clocked native draws done
      rw [← advance_add, Nat.add_comm m] at moved
      exact ⟨m, inTurn, moved⟩
    · intro nonzero σ _ h
      obtain ⟨words, behind⟩ := draws_setSeed_reading nonzero n h
      refine ⟨?_, fun native later plain => ?_⟩
      · rw [words, gave, List.map_map]
        exact List.map_congr_left fun w _ => congrArg Except.ok (Word.ofInt_toNat w)
      · have seeded : (after n (h.setSeed (foldedReading (clock last)))).mode = .deterministic := by rw [behind]
        have answers := answers_clocked_eq_seeded native seeded plain
        rwa [behind, itself, ← behind] at answers
    · intro seeded later stays u done
      rw [performAll_seeded stays seeded] at done
      obtain ⟨_, -, rfl⟩ := Option.map_eq_some_iff.mp done
      rfl
    · intro native later zeros u done
      exact core_of_performAll_native native zeros done

section

attribute [local instance] Memory.standard

/-- A run that comes back to native mode: the clock is read four times, and the last reading, its halves three
    and five, gives the stream of the seed six. -/
theorem clock_source_replays_seeded_streams_resumed :
    ∃ r t, (make (clockedSource (fun r => 0x100000000 * r + 5) fun _ => .unavailable) (some 0)).performAll
        [.next, .setSeed (.int 7), .fill (.int 3), .setSeed (.int 0x100000000), .below (.int 10), .next] = some r ∧
      mapResult Traced.source t = r ∧ r.2.source.env.clockReads = 4 ∧
      foldedReading (0x100000000 * 3 + 5) = 6 ∧
      ∃ n, t.2.source.draws.map (Except.map Word.ofInt) = draws n ((ofSource r.2.source).setSeed 6) := by
  let ops : List Operation :=
    [.next, .setSeed (.int 7), .fill (.int 3), .setSeed (.int 0x100000000), .below (.int 10), .next]
  have whole : ∀ op ∈ ops, op.HasWholeBound := by
    simp only [ops, List.mem_cons, List.not_mem_nil, or_false]
    rintro op (rfl | rfl | rfl | rfl | rfl | rfl)
    case inr.inr.inr.inr.inl => exact fun _ => nofun
    all_goals trivial
  obtain ⟨-, answered, runs⟩ :=
    clock_source_replays_seeded_streams (fun r => 0x100000000 * r + 5) (fun _ => .unavailable) (some 0) ops
  obtain ⟨r, run⟩ := Option.isSome_iff_exists.mp (answered whole)
  obtain ⟨t, last, n, -, forgotten, counted, -, source, -, seeded, -⟩ := runs r run
  have three : last = 3 := counted.trans (by decide)
  subst three
  obtain ⟨words, -⟩ := seeded (by decide) Native (ofSource r.2.source)
  exact ⟨r, t, run, forgotten, by rw [source], by decide, n, words⟩

end

end Generator

end SeedStream
