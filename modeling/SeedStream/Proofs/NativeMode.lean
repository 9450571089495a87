import SeedStream.Proofs.Moves
import SeedStream.Proofs.SequenceDraws
import SeedStream.Proofs.TracedSource

/-!
# Native mode

What a run of operations leaves behind can be read off the seeds in it. The last seed decides the mode;
each seed that is zero modulo `2 ^ 32` seeds the source anew, and nothing else does; the core stays, while
the mode is native, as the last deterministic part of the run left it. Over a fixed sequence the draws in
native mode give its words in order, from the first one on after every such seed.
-/

namespace SeedStream

open State

namespace Generator

variable {σ : Type} [EntropySource σ]

/-- What draws of the source keep, draws of the generator keep. -/
theorem source_draw_induction {P : σ → Prop} (draw : ∀ s, P s → P (EntropySource.draw s).2) {g : Generator σ}
    (start : P g.source) : P g.draw.2.source := by
  cases mode : g.mode with
  | deterministic =>
    rw [draw_deterministic mode]
    exact start
  | native =>
    rw [draw_native mode]
    exact draw g.source start

variable [Memory]

/-- What holds of a source that was seeded anew once, and is kept by draws and counted along new seeds, holds of
    it after every run: it was seeded anew at the start and by each seed that is zero modulo `2 ^ 32`. -/
theorem source_run_induction {P : Nat → σ → Prop} {source : σ} (start : P 1 (EntropySource.reseed source))
    (draw : ∀ n s, P n s → P n (EntropySource.draw s).2)
    (reseed : ∀ n s, P n s → P (n + 1) (EntropySource.reseed s)) {first : Option Int} {ops : List Operation}
    {r : List (Except Failure Answer) × Generator σ} (run : (make source first).performAll ops = some r) :
    P (1 + (Operation.seedsGiven first ops).countP fun i => i ≡ 0 [ZMOD 2 ^ 32]) r.2.source := by
  refine performAll_make_induction
    (P := fun seeds g => P (1 + seeds.countP fun i => i ≡ 0 [ZMOD 2 ^ 32]) g.source) start ?_ ?_ run
  · intro seeds g holds
    exact source_draw_induction (draw _) holds
  · intro seeds g i holds
    rw [List.countP_append, List.countP_singleton]
    by_cases zero : i ≡ 0 [ZMOD 2 ^ 32]
    · rw [setSeed_of_zero zero, if_pos (decide_eq_true zero), ← Nat.add_assoc]
      exact reseed _ g.source holds
    · rw [setSeed_of_nonzero zero, if_neg (mt of_decide_eq_true zero)]
      exact holds

/-! ## The mode -/

theorem mode_eq_native_iff {source : σ} {first : Option Int} {ops : List Operation}
    {r : List (Except Failure Answer) × Generator σ} (run : (make source first).performAll ops = some r) :
    r.2.mode = .native ↔ ∀ i ∈ (Operation.seedsGiven first ops).getLast?, i ≡ 0 [ZMOD 2 ^ 32] := by
  refine performAll_make_induction
    (P := fun seeds g => g.mode = .native ↔ ∀ i ∈ seeds.getLast?, i ≡ 0 [ZMOD 2 ^ 32]) ?_ ?_ ?_ run
  · exact iff_of_true rfl nofun
  · intro seeds g same
    rwa [mode_draw]
  · intro seeds g i _
    rw [mode_setSeed_eq_native_iff]
    simp only [List.getLast?_concat, Option.mem_some_iff, forall_eq']

/-! ## The core -/

/-- An operation that ends in native mode brings no seed but such as are zero modulo `2 ^ 32`, and does not
    move the core. -/
theorem perform_native {op : Operation} {g : Generator σ} {r : Except Failure Answer × Generator σ}
    (done : g.perform op = some r) (native : r.2.mode = .native) :
    (∀ i ∈ op.seed?, i ≡ 0 [ZMOD 2 ^ 32]) ∧ r.2.core = g.core := by
  obtain ⟨i, given, moved⟩ | ⟨unseeded, n, moved⟩ := perform_moves done
  · rw [moved] at native ⊢
    have zero := mode_setSeed_eq_native_iff.mp native
    rw [given, setSeed_of_zero zero]
    exact ⟨by simpa using zero, rfl⟩
  · rw [moved] at native ⊢
    rw [unseeded]
    exact ⟨nofun, core_after_native n ((mode_after n g).symm.trans native)⟩

/-- An operation leads from deterministic to native mode only by a seed. -/
theorem seed_of_perform_native {op : Operation} {g : Generator σ} {r : Except Failure Answer × Generator σ}
    (done : g.perform op = some r) (seeded : g.mode = .deterministic) (native : r.2.mode = .native) :
    ∃ i ∈ op.seed?, i ≡ 0 [ZMOD 2 ^ 32] := by
  obtain ⟨zeros, -⟩ := perform_native done native
  obtain ⟨i, given, -⟩ | ⟨-, n, moved⟩ := perform_moves done
  · exact ⟨i, given, zeros i given⟩
  · rw [moved, mode_after, seeded] at native
    cases native

/-- The core in native mode: that of the seed one if no seed was given but such as are zero modulo `2 ^ 32`,
    and otherwise the one that the run had when it left deterministic mode for the last time. -/
def CoreIsLeft (source : σ) (first : Option Int) (ops : List Operation) (core : State) : Prop :=
  ((∀ i ∈ Operation.seedsGiven first ops, i ≡ 0 [ZMOD 2 ^ 32]) ∧ core = ofSeed 1) ∨
    ∃ before op later r, ops = before ++ op :: later ∧ (∃ i ∈ op.seed?, i ≡ 0 [ZMOD 2 ^ 32]) ∧
      (∀ i ∈ later.filterMap Operation.seed?, i ≡ 0 [ZMOD 2 ^ 32]) ∧
      (make source first).performAll before = some r ∧ r.2.mode = .deterministic ∧ core = r.2.core

/-- An operation more that stays in native mode leaves the core as it was left. -/
theorem CoreIsLeft.concat {source : σ} {first : Option Int} {ops : List Operation} {op : Operation} {core : State}
    (left : CoreIsLeft source first ops core) (zeros : ∀ i ∈ op.seed?, i ≡ 0 [ZMOD 2 ^ 32]) :
    CoreIsLeft source first (ops ++ [op]) core := by
  obtain ⟨zerosBefore, start⟩ | ⟨before, last, later, r, split, zero, rest, run, seeded, same⟩ := left
  · refine .inl ⟨fun i member => ?_, start⟩
    rw [Operation.seedsGiven_concat, List.mem_append, Option.mem_toList] at member
    exact member.elim (zerosBefore i) (zeros i)
  · refine .inr ⟨before, last, later ++ [op], r, by rw [split, List.append_assoc, List.cons_append], zero, ?_, run, seeded, same⟩
    intro i member
    rw [List.filterMap_append, List.mem_append] at member
    rcases member with early | late
    · exact rest i early
    · obtain ⟨o, one, given⟩ := List.mem_filterMap.mp late
      rw [List.mem_singleton.mp one] at given
      exact zeros i given

theorem coreIsLeft_of_run {source : σ} {first : Option Int} {ops : List Operation}
    {r : List (Except Failure Answer) × Generator σ} (run : (make source first).performAll ops = some r)
    (native : r.2.mode = .native) : CoreIsLeft source first ops r.2.core := by
  -- from the last operation backwards: it is the end of the run that the core hangs on
  induction ops using List.reverseRecOn generalizing r with
  | nil =>
    cases run
    cases first with
    | none => exact .inl ⟨List.forall_mem_nil _, rfl⟩
    | some i =>
      have zero : i ≡ 0 [ZMOD 2 ^ 32] := mode_setSeed_eq_native_iff.mp native
      refine .inl ⟨by simpa [Operation.seedsGiven] using zero, ?_⟩
      rw [make, setSeed_of_zero zero, ofSource]
  | append_singleton ops op ih =>
    obtain ⟨before, last, early, done, rfl⟩ := performAll_concat_eq_some run
    obtain ⟨zeros, same⟩ := perform_native done native
    rw [same]
    cases mode : before.2.mode with
    | native => exact (ih early mode).concat zeros
    | deterministic =>
      exact .inr ⟨ops, op, [], before, rfl, seed_of_perform_native done mode native, List.forall_mem_nil _, early,
        mode, rfl⟩

end Generator

/-! ## Draws of a fixed sequence -/

/-- What the draw of a number gives from integers, counted from zero since their source was last seeded anew:
    the integer of that number modulo `2 ^ 32`, where the integers start over or are used up at their end. -/
def Sequence.replayed (values : List Int) (cycle : Bool) (k : Nat) : Except Failure Int :=
  match values[if cycle then k % values.length else k]? with
  | some i => .ok (i % 2 ^ 32)
  | none => .error (.entropy .exhausted)

namespace Sequence

/-- A sequence made of integers holds them modulo `2 ^ 32` and stands at the first. -/
theorem eq_of_ofValues {values : List Int} {cycle : Bool} {s : Sequence}
    (made : ofValues (values.map .int) cycle = .ok s) :
    s.values = values.map Word.ofInt ∧ s.cycle = cycle ∧ s.reseeds = 0 := by
  have taken : (values.map Value.int).mapM Value.toInteger = .ok (values.map id) :=
    Value.mapM_map_eq_ok fun i _ => Value.toInteger_int i
  simp only [ofValues, taken, List.map_id, bind, Except.bind, ofWords?] at made
  split at made
  case h_1 t words =>
    split at words
    · cases words
    · cases words
      cases made
      exact ⟨rfl, rfl, rfl⟩
  case h_2 => cases made

theorem nth_of_ofValues {values : List Int} {cycle : Bool} {s : Sequence}
    (made : ofValues (values.map .int) cycle = .ok s) (k : Nat) : s.nth k = replayed values cycle k := by
  obtain ⟨words, circle, -⟩ := eq_of_ofValues made
  rw [nth, replayed, words, circle, List.length_map, List.getElem?_map]
  cases values[if cycle then k % values.length else k]? with
  | none => rfl
  | some i => exact congrArg Except.ok (Word.cast_toNat_ofInt i)

end Sequence

/-- A traced sequence with the words of another gave what is to be expected of that, and stands as far on. -/
structure Traced.Replays (s : Sequence) (t : Traced Sequence) : Prop where
  values : t.source.values = s.values
  cycle : t.source.cycle = s.cycle
  stands : t.source.StandsAt t.draws.length
  gave : t.draws = (List.range t.draws.length).map s.nth

namespace Traced

variable {s : Sequence} {t : Traced Sequence}

theorem Replays.draw_fst (replays : t.Replays s) : (EntropySource.draw t).1 = s.nth t.draws.length :=
  (Sequence.draw_of_standsAt replays.stands).1.trans (Sequence.nth_congr replays.values replays.cycle _)

theorem Replays.draw (replays : t.Replays s) : (EntropySource.draw t).2.Replays s := by
  obtain ⟨values, cycle, -⟩ := t.source.draw_keeps
  have length : (t.draws ++ [t.source.draw.1]).length = t.draws.length + 1 := List.length_append
  refine ⟨values.trans replays.values, cycle.trans replays.cycle, ?_, ?_⟩
  · change t.source.draw.2.StandsAt (t.draws ++ [t.source.draw.1]).length
    rw [length]
    exact (Sequence.draw_of_standsAt replays.stands).2
  · change t.draws ++ [t.source.draw.1] = (List.range (t.draws ++ [t.source.draw.1]).length).map s.nth
    rw [length, List.range_succ, List.map_append, ← replays.gave]
    exact congrArg (t.draws ++ [·]) replays.draw_fst

theorem Replays.reseed (replays : t.Replays s) : (EntropySource.reseed t).Replays s :=
  ⟨replays.values, replays.cycle, t.source.reseed_standsAt, rfl⟩

end Traced

namespace Generator

/-- After every run a sequence was seeded anew once at the start and once for each seed that is zero modulo
    `2 ^ 32`. -/
theorem reseeds_of_run [Memory] {source : Sequence} (unused : source.reseeds = 0) {first : Option Int}
    {ops : List Operation} {r : List (Except Failure Answer) × Generator Sequence} (run : (make source first).performAll ops = some r) :
    r.2.source.reseeds = 1 + (Operation.seedsGiven first ops).countP fun i => i ≡ 0 [ZMOD 2 ^ 32] := by
  refine source_run_induction (P := fun n s => s.reseeds = n) ?_ ?_ ?_ run
  · exact congrArg (· + 1) unused
  · intro n s counted
    exact s.draw_keeps.2.2.trans counted
  · intro n s counted
    exact congrArg (· + 1) counted

/-- After every run the trace of a sequence holds what its draws are to give. -/
theorem replays_of_run [Memory] {source : Sequence} {first : Option Int} {ops : List Operation}
    {r : List (Except Failure Answer) × Generator (Traced Sequence)}
    (run : (make (Traced.fresh source) first).performAll ops = some r) : r.2.source.Replays source := by
  refine source_run_induction (P := fun _ t => t.Replays source) ?_ ?_ ?_ run
  · exact ⟨rfl, rfl, source.reseed_standsAt, rfl⟩
  · intro _ t replays
    exact replays.draw
  · intro _ t replays
    exact replays.reseed

theorem source_perform_deterministic [Memory] {σ : Type} [EntropySource σ] {op : Operation} (unseeded : op.seed? = none)
    {g : Generator σ} (mode : g.mode = .deterministic) {r : Except Failure Answer × Generator σ}
    (done : g.perform op = some r) : r.2.source = g.source := by
  obtain ⟨i, given, -⟩ | ⟨-, n, moved⟩ := perform_moves done
  · rw [unseeded] at given
    cases given
  · rw [moved, after_deterministic n mode]

/-- A generator over a sequence made of integers, after any run of operations, failures included. Its mode
    is native exactly if no seed was given or the last one is zero modulo `2 ^ 32`; the sequence was seeded
    anew at the start and for each such seed; the draws since then, of which only native mode makes any,
    gave the integers in order and modulo `2 ^ 32`, and the next is to go on with them; and in native mode
    the core is as the last deterministic part of the run left it. -/
theorem native_mode_replays_sequence [Memory] {values : List Int} {cycle : Bool} {source : Sequence}
    (made : Sequence.ofValues (values.map .int) cycle = .ok source) (first : Option Int) (ops : List Operation)
    {r : List (Except Failure Answer) × Generator Sequence} (run : (make source first).performAll ops = some r) :
    (r.2.mode = .native ↔ ∀ i ∈ (Operation.seedsGiven first ops).getLast?, i ≡ 0 [ZMOD 2 ^ 32]) ∧
      (r.2.source.reseeds = 1 + (Operation.seedsGiven first ops).countP fun i => i ≡ 0 [ZMOD 2 ^ 32]) ∧
      (∃ t, (make (Traced.fresh source) first).performAll ops = some t ∧ mapResult Traced.source t = r ∧
        t.2.source.draws = (List.range t.2.source.draws.length).map (Sequence.replayed values cycle) ∧
        (r.2.mode = .native →
          r.2.draw.1 = (Sequence.replayed values cycle t.2.source.draws.length).map Word.ofInt)) ∧
      (r.2.mode = .deterministic →
        ∀ op u, op.seed? = none → r.2.perform op = some u → u.2.source = r.2.source) ∧
      (r.2.mode = .native → CoreIsLeft source first ops r.2.core) := by
  obtain ⟨-, -, unused⟩ := Sequence.eq_of_ofValues made
  obtain ⟨t, traced, same⟩ := exists_traced_run run
  have replays := replays_of_run traced
  have expected : source.nth = Sequence.replayed values cycle := funext (Sequence.nth_of_ofValues made)
  refine ⟨mode_eq_native_iff run, reseeds_of_run unused run, ⟨t, traced, same, ?_, fun native => ?_⟩, ?_,
    coreIsLeft_of_run run⟩
  · rw [← expected]
    exact replays.gave
  · have forgotten : r.2.source = t.2.source.source := by
      rw [← same]
      rfl
    rw [draw_native native, forgotten, ← expected, ← replays.draw_fst]
    rfl
  · intro mode op u unseeded done
    exact source_perform_deterministic unseeded mode done

section

attribute [local instance] Memory.standard

/-- Two integers that do not start over: used up in the middle of a block, seeded anew by way of deterministic
    mode, and used up again between the two draws of a fraction. -/
theorem native_mode_replays_sequence_used_up :
    Sequence.ofValues ([5, 0x100000009].map .int) false = .ok ⟨[5, 9], false, 0, 0, by decide⟩ ∧
      ∃ r, (make (⟨[5, 9], false, 0, 0, by decide⟩ : Sequence) (some 0)).performAll
          [.fill (.int 3), .setSeed (.int 3), .next, .setSeed (.int (-0x100000000)), .next, .fraction] = some r ∧
        r.2.mode = .native ∧ r.2.source.reseeds = 3 ∧
          ∃ t, mapResult Traced.source t = r ∧ t.2.source.draws = [.ok 5, .ok 9, .error (.entropy .exhausted)] := by
  have made : Sequence.ofValues ([5, 0x100000009].map .int) false = .ok ⟨[5, 9], false, 0, 0, by decide⟩ := rfl
  let ops : List Operation :=
    [.fill (.int 3), .setSeed (.int 3), .next, .setSeed (.int (-0x100000000)), .next, .fraction]
  have answered : ((make (⟨[5, 9], false, 0, 0, by decide⟩ : Sequence) (some 0)).performAll ops).isSome := by
    decide
  have drawn : ((make (Traced.fresh (⟨[5, 9], false, 0, 0, by decide⟩ : Sequence)) (some 0)).performAll ops).map
      (fun t => t.2.source.draws.length) = some 3 := by
    decide
  obtain ⟨r, run⟩ := Option.isSome_iff_exists.mp answered
  obtain ⟨mode, reseeds, ⟨t, traced, same, draws, -⟩, -⟩ := native_mode_replays_sequence made (some 0) ops run
  rw [traced, Option.map_some, Option.some.injEq] at drawn
  rw [drawn] at draws
  exact ⟨made, r, run, mode.mpr (by decide), reseeds.trans (by decide), t, same, draws⟩

end

end Generator

end SeedStream
