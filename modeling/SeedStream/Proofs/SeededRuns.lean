import SeedStream.Entropy.Sequence
import SeedStream.Proofs.Deterministic

/-!
# Seeded runs

A seed that is not zero modulo `2 ^ 32` makes a generator forget what it did before. Whatever is asked
of two generators that were given congruent seeds, both answer alike, over whatever sources. The words
that go into their answers (`Operation.Takes`) are the outputs of the seeded state in order
(`Operation.TakeInTurn`), and the sources stay as they are.
-/

namespace SeedStream

open State

namespace Operation

/-! ## The words that go into an answer -/

/-- The operation draws words and brings no seed. -/
def Draws : Operation → Prop
  | setSeed _ => False
  | _ => True

theorem Draws.staysSeeded {op : Operation} (draws : op.Draws) : op.StaysSeeded := by
  cases op with
  | setSeed seed => exact draws.elim
  | next | fill | below | fraction => trivial

variable [Memory]

/-- In deterministic mode the operation takes these words and gives this answer. -/
inductive Takes : Operation → List Word → Except Failure Answer → Prop
  | next (w : Word) : Takes next [w] (.ok (.word w))
  | fill {count : Value} {ws : List Word} (counted : Generator.coreCount count = .ok ws.length) :
      Takes (fill count) ws (.ok (.words ws))
  | fillRefused {count : Value} {e : Failure} (refused : Generator.coreCount count = .error e) :
      Takes (fill count) [] (.error e)
  | below {bound : Value} {b : Generator.Bound} (given : Generator.boundOf bound = .ok b) {rejected : List Word}
      (before : ∀ r ∈ rejected, b.accepts r = false) {w : Word} (accepted : b.accepts w = true) :
      Takes (below bound) (rejected ++ [w]) (.ok (b.remainder w))
  | belowRefused {bound : Value} {e : Failure} (refused : Generator.boundOf bound = .error e) :
      Takes (below bound) [] (.error e)
  | fraction (a b : Word) : Takes fraction [a, b] (.ok (.real (Fraction.ofWords a b).toDouble))

/-- The operations take these words one after another and give these answers. -/
inductive TakeInTurn : List Operation → List Word → List (Except Failure Answer) → Prop
  | nil : TakeInTurn [] [] []
  | cons {op : Operation} {ws : List Word} {answer : Except Failure Answer} {ops : List Operation}
      {later : List Word} {answers : List (Except Failure Answer)} (first : op.Takes ws answer)
      (rest : TakeInTurn ops later answers) : TakeInTurn (op :: ops) (ws ++ later) (answer :: answers)

/-- An operation takes the next outputs of the core, and as many steps lead to the state it leaves. -/
theorem takes_of_onCore {op : Operation} (draws : op.Draws) {s t : State} {answer : Except Failure Answer}
    (result : op.onCore s = some (answer, t)) : ∃ n, op.Takes (outputs n s) answer ∧ t = advance n s := by
  cases op with
  | setSeed seed => exact draws.elim
  | next =>
    cases result
    exact ⟨1, .next s.output, rfl⟩
  | fill count =>
    rw [onCore] at result
    cases counted : Generator.coreCount count with
    | error e =>
      rw [counted] at result
      cases result
      exact ⟨0, .fillRefused counted, rfl⟩
    | ok n =>
      rw [counted] at result
      cases result
      refine ⟨n, .fill ?_, rfl⟩
      rw [counted, length_outputs]
  | below bound =>
    rw [onCore] at result
    cases given : Generator.boundOf bound with
    | error e =>
      rw [given] at result
      cases result
      exact ⟨0, .belowRefused given, rfl⟩
    | ok b =>
      rw [given] at result
      obtain ⟨k, found, same⟩ := Option.map_eq_some_iff.mp result
      obtain ⟨-, accepted, before⟩ := findIdx?_outputs_eq_some_iff.mp found
      cases same
      refine ⟨k + 1, ?_, rfl⟩
      rw [outputs_add_one]
      exact .below given before accepted
  | fraction =>
    cases result
    exact ⟨2, .fraction s.output s.next.output, rfl⟩

/-- Operations one after another take the outputs of the core in order, none twice and none left out. -/
theorem takeInTurn_of_onCoreAll {ops : List Operation} (draws : ∀ op ∈ ops, op.Draws) {s t : State}
    {answers : List (Except Failure Answer)} (result : onCoreAll ops s = some (answers, t)) :
    ∃ n, TakeInTurn ops (outputs n s) answers ∧ t = advance n s := by
  induction ops generalizing s answers with
  | nil =>
    cases result
    exact ⟨0, .nil, rfl⟩
  | cons op rest ih =>
    obtain ⟨first, others⟩ := List.forall_mem_cons.mp draws
    rw [onCoreAll] at result
    cases answered : op.onCore s with
    | none =>
      rw [answered] at result
      cases result
    | some r =>
      obtain ⟨answer, middle⟩ := r
      rw [answered] at result
      obtain ⟨⟨later, last⟩, remaining, same⟩ := Option.map_eq_some_iff.mp result
      cases same
      obtain ⟨m, taken, rfl⟩ := takes_of_onCore first answered
      obtain ⟨n, inTurn, rfl⟩ := ih others remaining
      refine ⟨m + n, ?_, ?_⟩
      · rw [outputs_add]
        exact .cons taken inTurn
      · rw [Nat.add_comm, advance_add]

end Operation

namespace Generator

/-! ## Runs after a seed -/

/-- A run after a seed depends on the seed alone, and leaves the source as it was. -/
theorem performAll_after_seed [Memory] {σ : Type} [EntropySource σ] (g : Generator σ) {seed : Int}
    (nonzero : ¬ seed ≡ 0 [ZMOD 2 ^ 32]) {ops : List Operation} (stays : ∀ op ∈ ops, op.StaysSeeded) :
    g.performAll (.setSeed (.int seed) :: ops) = (Operation.onCoreAll ops (ofSeed seed)).map fun r =>
      (.ok .nothing :: r.1, ⟨.deterministic, r.2, g.source⟩) := by
  have seeded : g.setSeed seed = ⟨.deterministic, ofSeed seed, g.source⟩ := setSeed_of_nonzero nonzero g
  have mode : (g.setSeed seed).mode = .deterministic := by rw [seeded]
  calc g.performAll (.setSeed (.int seed) :: ops)
      = ((g.setSeed seed).performAll ops).map fun r => (.ok .nothing :: r.1, r.2) := rfl
    _ = _ := by
      rw [performAll_seeded stays mode, Option.map_map, seeded]
      rfl

/-- Two generators that are given congruent seeds, not zero modulo `2 ^ 32`, answer alike whatever is asked
    of them, as long as no seed that is zero modulo `2 ^ 32` comes; their cores stay equal and their
    sources as they were. Operations that bring no seed take the outputs of the seeded state in order, and
    they all have answers if no bound is a double. -/
theorem seeded_runs_agree [Memory] {σ τ : Type} [EntropySource σ] [EntropySource τ] (g : Generator σ) (h : Generator τ)
    {a b : Int} (congruent : a ≡ b [ZMOD 2 ^ 32]) (nonzero : ¬ a ≡ 0 [ZMOD 2 ^ 32]) :
    (∀ ops : List Operation, (∀ op ∈ ops, op.StaysSeeded) →
        ((g.performAll (.setSeed (.int a) :: ops)).map fun r => (r.1, r.2.core)) =
            ((h.performAll (.setSeed (.int b) :: ops)).map fun r => (r.1, r.2.core)) ∧
          (∀ r ∈ g.performAll (.setSeed (.int a) :: ops), r.2.mode = .deterministic ∧ r.2.source = g.source) ∧
          ∀ r ∈ h.performAll (.setSeed (.int b) :: ops), r.2.mode = .deterministic ∧ r.2.source = h.source) ∧
      (∀ ops : List Operation, (∀ op ∈ ops, op.Draws) →
        ∀ r ∈ g.performAll (.setSeed (.int a) :: ops), ∃ answers n, r.1 = .ok .nothing :: answers ∧
          Operation.TakeInTurn ops (outputs n (ofSeed a)) answers ∧ r.2.core = advance n (ofSeed a)) ∧
      ∀ ops : List Operation, (∀ op ∈ ops, op.StaysSeeded ∧ op.HasWholeBound) →
        (g.performAll (.setSeed (.int a) :: ops)).isSome := by
  have other : ¬ b ≡ 0 [ZMOD 2 ^ 32] := fun zero => nonzero (congruent.trans zero)
  have start : ofSeed a = ofSeed b := ofSeed_congr congruent
  refine ⟨fun ops stays => ⟨?_, ?_, ?_⟩, fun ops draws => ?_, fun ops proper => ?_⟩
  · rw [performAll_after_seed g nonzero stays, performAll_after_seed h other stays, start, Option.map_map,
      Option.map_map]
    rfl
  · rw [performAll_after_seed g nonzero stays]
    rintro r result
    obtain ⟨_, _, rfl⟩ := Option.map_eq_some_iff.mp result
    exact ⟨rfl, rfl⟩
  · rw [performAll_after_seed h other stays]
    rintro r result
    obtain ⟨_, _, rfl⟩ := Option.map_eq_some_iff.mp result
    exact ⟨rfl, rfl⟩
  · rw [performAll_after_seed g nonzero fun op member => (draws op member).staysSeeded]
    rintro r result
    obtain ⟨⟨answers, t⟩, run, rfl⟩ := Option.map_eq_some_iff.mp result
    obtain ⟨n, taken, rfl⟩ := Operation.takeInTurn_of_onCoreAll draws run
    exact ⟨answers, n, rfl, taken, rfl⟩
  · rw [performAll_after_seed g nonzero fun op member => (proper op member).1, Option.isSome_map]
    exact Operation.isSome_onCoreAll (fun op member => (proper op member).2) (ofSeed a)

section

attribute [local instance] Memory.standard

/-- A generator in native mode and one with an old seed, whose sources differ, after the seeds `7` and
    `7 - 2 ^ 32`: a bound that rejects words, a refused count and a new seed. -/
theorem seeded_runs_agree_across_modes :
    (7 : Int) ≡ 7 - 0x100000000 [ZMOD 2 ^ 32] ∧ ¬ (7 : Int) ≡ 0 [ZMOD 2 ^ 32] ∧
      (∀ op ∈ [.below (.int 0xc0000000), .fill (.int (-1)), .setSeed (.int 9), .fraction],
        Operation.StaysSeeded op ∧ op.HasWholeBound) ∧
      (performAll [.setSeed (.int 7), .below (.int 0xc0000000), .fill (.int (-1)), .setSeed (.int 9), .fraction]
          (⟨.native, ⟨1, 2, 3, 4⟩, ⟨[1, 2], true, 1, 4, by decide⟩⟩ : Generator Sequence)).map
            (fun r => (r.1, r.2.core)) =
        (performAll [.setSeed (.int (7 - 0x100000000)), .below (.int 0xc0000000), .fill (.int (-1)),
            .setSeed (.int 9), .fraction]
          (⟨.deterministic, ⟨5, 0, 0, 6⟩, ⟨[9], false, 1, 1, by decide⟩⟩ : Generator Sequence)).map
            (fun r => (r.1, r.2.core)) ∧
      (performAll [.setSeed (.int 7), .below (.int 0xc0000000), .fill (.int (-1)), .setSeed (.int 9), .fraction]
          (⟨.native, ⟨1, 2, 3, 4⟩, ⟨[1, 2], true, 1, 4, by decide⟩⟩ : Generator Sequence)).isSome := by
  have congruent : (7 : Int) ≡ 7 - 0x100000000 [ZMOD 2 ^ 32] := by decide
  have nonzero : ¬ (7 : Int) ≡ 0 [ZMOD 2 ^ 32] := by decide
  have proper : ∀ op ∈ [.below (.int 0xc0000000), .fill (.int (-1)), .setSeed (.int 9), .fraction],
      Operation.StaysSeeded op ∧ op.HasWholeBound := by
    simp only [List.mem_cons, List.not_mem_nil, or_false]
    rintro op (rfl | rfl | rfl | rfl)
    · exact ⟨trivial, fun _ => nofun⟩
    · exact ⟨trivial, trivial⟩
    · refine ⟨fun i same => ?_, trivial⟩
      cases same
      decide
    · exact ⟨trivial, trivial⟩
  obtain ⟨alike, -, answered⟩ := seeded_runs_agree
    (⟨.native, ⟨1, 2, 3, 4⟩, ⟨[1, 2], true, 1, 4, by decide⟩⟩ : Generator Sequence)
    (⟨.deterministic, ⟨5, 0, 0, 6⟩, ⟨[9], false, 1, 1, by decide⟩⟩ : Generator Sequence) congruent nonzero
  exact ⟨congruent, nonzero, proper, (alike _ fun op member => (proper op member).1).1, answered _ proper⟩

end

end Generator

end SeedStream
