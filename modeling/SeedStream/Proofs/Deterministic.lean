import SeedStream.Operation
import SeedStream.Proofs.Period

/-!
# Deterministic mode

What an operation does in deterministic mode is a matter of the core generator alone
(`Operation.onCore`): the answer and the next state of the core follow from its state, and the source
is neither asked nor seeded anew (`Generator.perform_seeded`, `Generator.performAll_seeded`). All that
this rests on is that the draws are the outputs of a state (`Generator.Streams`). A draw below a bound
takes the outputs up to the first that the bound accepts; an integer bound accepts the output zero,
which every stream has.
-/

namespace SeedStream

open State

variable {σ : Type} [EntropySource σ]

namespace State

/-! ## The first output of its kind -/

theorem findIdx?_outputs_eq_some_iff {accepts : Word → Bool} {n k : Nat} {s : State} :
    (outputs n s).findIdx? accepts = some k ↔
      k < n ∧ accepts (advance k s).output = true ∧ ∀ w ∈ outputs k s, accepts w = false := by
  rw [List.findIdx?_eq_some_iff_getElem]
  constructor
  · rintro ⟨short, accepted, before⟩
    rw [getElem_outputs] at accepted
    refine ⟨length_outputs n s ▸ short, accepted, ?_⟩
    intro w member
    obtain ⟨j, earlier, rfl⟩ := mem_outputs.mp member
    have rejected := before j earlier
    rwa [getElem_outputs, Bool.not_eq_true] at rejected
  · rintro ⟨short, accepted, before⟩
    have inside : k < (outputs n s).length := (length_outputs n s).symm ▸ short
    refine ⟨inside, (getElem_outputs inside).symm ▸ accepted, ?_⟩
    intro j earlier
    rw [getElem_outputs, Bool.not_eq_true]
    exact before _ (mem_outputs.mpr ⟨j, earlier, rfl⟩)

/-- Every stream has the output zero, and that before it could come back to its start. -/
theorem exists_output_zero (s : State) : ∃ k < Jump.period, (advance k s).output = 0 := by
  by_cases start : s = zero
  · rw [start]
    exact ⟨0, by decide, by decide⟩
  · obtain ⟨k, early, reached⟩ := exists_advance start (show Jump.origin ≠ zero by decide)
    refine ⟨k, early, ?_⟩
    rw [reached]
    decide

end State

namespace Generator

/-! ## Bounds -/

/-- The words that a draw below a bound accepts. -/
def Bound.accepts : Bound → Word → Bool
  | whole n, w => w.toNat < acceptLimit n
  | real num den, w => (Value.real (realLimit num den)).compareInt? w.toNat = some .gt

/-- What a draw below a bound makes of the word that it accepts. -/
def Bound.remainder : Bound → Word → Answer
  | whole n, w => .word (UInt32.ofNat (w.toNat % n))
  | real num den, w => .real (Double.ofRatio false (w.toNat * den % num) den)

theorem boundOf_of_integer {bound : Value} {i : Int} (integer : bound.integer? = some i) :
    boundOf bound =
      if 0 < i ∧ i ≤ 0x100000000 then .ok (.whole i.toNat) else .error (.value (.bound bound.display)) := by
  have number : bound.isNumber = true := by
    cases bound with
    | bool _ | int _ => rfl
    | _ => cases integer
  have order (j : Int) : bound.compareInt? j = some (compare i j) := by
    cases bound with
    | bool _ | int _ =>
      cases integer
      rfl
    | _ => cases integer
  by_cases positive : 0 < i
  · have above : compare i 0 = .gt := compare_gt_iff_gt.mpr positive
    by_cases small : i ≤ 0x100000000
    · have within : compare i 0x100000000 ≠ .gt := compare_le_iff_le.mpr small
      rw [if_pos ⟨positive, small⟩, boundOf, number, order, order, above]
      cases upper : compare i 0x100000000 with
      | gt => exact absurd upper within
      | lt | eq =>
        cases bound with
        | bool _ | int _ =>
          cases integer
          rfl
        | _ => cases integer
    · have beyond : compare i 0x100000000 = .gt := compare_gt_iff_gt.mpr (not_le.mp small)
      rw [if_neg fun within => small within.2, boundOf, number, order, order, above, beyond]
      rfl
  · have low : compare i 0 ≠ .gt := mt compare_gt_iff_gt.mp positive
    rw [if_neg fun within => positive within.1, boundOf, number, order]
    cases lower : compare i 0 with
    | gt => exact absurd lower low
    | lt | eq => rfl

theorem boundOf_of_other {bound : Value} (other : bound.integer? = none) (proper : ∀ x, bound ≠ .real x) :
    boundOf bound = .error (.kind (.order .lessOrEqual bound.kind .int)) := by
  cases bound with
  | real x => exact absurd rfl (proper x)
  | bool b => cases other
  | int i => cases other
  | _ => rfl

/-- A bound that is no double is a number above zero and at most the number of words. -/
theorem whole_of_boundOf {bound : Value} (proper : ∀ x, bound ≠ .real x) {b : Bound} (ok : boundOf bound = .ok b) :
    ∃ n, b = .whole n ∧ 0 < n ∧ n ≤ 0x100000000 := by
  cases integer : bound.integer? with
  | none =>
    rw [boundOf_of_other integer proper] at ok
    cases ok
  | some i =>
    rw [boundOf_of_integer integer] at ok
    split at ok
    case isTrue within =>
      cases ok
      exact ⟨i.toNat, rfl, by omega, by omega⟩
    case isFalse => cases ok

theorem accepts_zero {n : Nat} (positive : 0 < n) (small : n ≤ 0x100000000) : (Bound.whole n).accepts 0 = true := by
  have limit : 0 < acceptLimit n := Nat.mul_pos (Nat.div_pos small positive) positive
  exact decide_eq_true limit

/-- A draw below a bound takes words up to the first that the bound accepts. -/
theorem perform_below [Memory] {bound : Value} {b : Bound} (ok : boundOf bound = .ok b) (g : Generator σ) :
    g.perform (.below bound) =
      (g.drawUntil b.accepts maxDraws).map fun r => (r.1.map b.remainder, r.2) := by
  cases b with
  | whole n =>
    simp only [perform, ok, below, Option.map_map]
    congr 1
    funext r
    obtain ⟨_ | w, g⟩ := r <;> rfl
  | real num den =>
    simp only [perform, ok, belowReal, Option.map_map]
    congr 1
    funext r
    obtain ⟨_ | w, g⟩ := r <;> rfl

/-! ## Streams -/

/-- The draws of a generator are the outputs of a state: a draw gives the output and steps on. -/
def Streams (k : State → Generator σ) : Prop :=
  ∀ s, (k s).draw = (.ok s.output, k s.next)

namespace Streams

variable {k : State → Generator σ}

/-- Draws up to an accepted word are as many steps of the state. -/
theorem drawUntil (streams : Streams k) (accepts : Word → Bool) (fuel : Nat) (s : State) :
    (k s).drawUntil accepts fuel = ((outputs fuel s).findIdx? accepts).map fun j =>
      (.ok (advance j s).output, k (advance (j + 1) s)) := by
  induction fuel generalizing s with
  | zero => rfl
  | succ fuel ih =>
    rw [Generator.drawUntil, streams, outputs_succ, List.findIdx?_cons]
    cases accepted : accepts s.output with
    | true =>
      simp only [accepted, if_true]
      rfl
    | false =>
      simp only [accepted, Bool.false_eq_true, if_false, ih, Option.map_map]
      rfl

theorem fillFrom (streams : Streams k) (done : List Word) (n : Nat) (s : State) :
    (k s).fillFrom done n = (.ok (done.reverse ++ outputs n s), k (advance n s)) := by
  induction n generalizing done s with
  | zero => rw [Generator.fillFrom, outputs_zero, List.append_nil, advance]
  | succ n ih =>
    rw [Generator.fillFrom, streams]
    simp only [ih, List.reverse_cons, outputs_succ, List.append_assoc, List.singleton_append, advance]

theorem fraction (streams : Streams k) (s : State) :
    (k s).fraction = (.ok (Fraction.ofWords s.output s.next.output), k s.next.next) := by
  simp only [Generator.fraction, streams s, streams s.next]

end Streams

/-! ## Draws in deterministic mode -/

theorem streams_deterministic {g : Generator σ} (mode : g.mode = .deterministic) :
    Streams fun s => { g with core := s } := by
  intro s
  have same : ({ g with core := s } : Generator σ).mode = .deterministic := mode
  rw [draw_deterministic same]

theorem drawUntil_seeded (accepts : Word → Bool) (fuel : Nat) {g : Generator σ} (mode : g.mode = .deterministic) :
    g.drawUntil accepts fuel = ((outputs fuel g.core).findIdx? accepts).map fun k =>
      (.ok (advance k g.core).output, { g with core := advance (k + 1) g.core }) :=
  (streams_deterministic mode).drawUntil accepts fuel g.core

theorem fill_seeded (n : Nat) {g : Generator σ} (mode : g.mode = .deterministic) :
    g.fill n = (.ok (outputs n g.core), { g with core := advance n g.core }) := by
  simp only [fill, mode, run_fst, run_snd]

theorem fraction_seeded {g : Generator σ} (mode : g.mode = .deterministic) :
    g.fraction = (.ok (Fraction.ofWords g.core.output g.core.next.output), { g with core := g.core.next.next }) :=
  (streams_deterministic mode).fraction g.core

/-- A block takes its draws one by one in both modes. -/
theorem fill_eq_fillFrom (n : Nat) (g : Generator σ) : g.fill n = fillFrom [] n g := by
  cases mode : g.mode with
  | native => rw [fill, mode]
  | deterministic =>
    rw [fill_seeded n mode]
    exact ((streams_deterministic mode).fillFrom [] n g.core).symm

theorem Streams.fill {k : State → Generator σ} (streams : Streams k) (n : Nat) (s : State) :
    (k s).fill n = (.ok (outputs n s), k (advance n s)) := by
  rw [fill_eq_fillFrom, streams.fillFrom, List.reverse_nil, List.nil_append]

theorem setSeed_of_nonzero {seed : Int} (nonzero : ¬ seed ≡ 0 [ZMOD 2 ^ 32]) (g : Generator σ) :
    g.setSeed seed = { g with mode := .deterministic, core := ofSeed seed } :=
  if_neg (mt Word.ofInt_eq_iff_modEq.mp nonzero)

theorem setSeed_of_zero {seed : Int} (zero : seed ≡ 0 [ZMOD 2 ^ 32]) (g : Generator σ) :
    g.setSeed seed = { g with mode := .native, source := EntropySource.reseed g.source } :=
  if_pos (Word.ofInt_eq_iff_modEq.mpr zero)

theorem mode_setSeed_eq_native_iff {seed : Int} {g : Generator σ} :
    (g.setSeed seed).mode = .native ↔ seed ≡ 0 [ZMOD 2 ^ 32] := by
  by_cases zero : seed ≡ 0 [ZMOD 2 ^ 32]
  · rw [setSeed_of_zero zero]
    exact iff_of_true rfl zero
  · rw [setSeed_of_nonzero zero]
    exact iff_of_false nofun zero

end Generator

namespace Operation

/-! ## Operations on the core -/

/-- The operation does not lead out of deterministic mode: it brings no seed that is zero modulo
    `2 ^ 32`. -/
def StaysSeeded : Operation → Prop
  | setSeed seed => ∀ i, seed.asIndex = .ok i → ¬ i ≡ 0 [ZMOD 2 ^ 32]
  | _ => True

variable [Memory]

/-- What an operation does in deterministic mode: its answer and the next state of the core. There is no
    answer only if a bound accepts none of the outputs. -/
def onCore (op : Operation) (s : State) : Option (Except Failure Answer × State) :=
  match op with
  | setSeed seed =>
    match seed.asIndex with
    | .ok seed => some (.ok .nothing, ofSeed seed)
    | .error e => some (.error e, s)
  | next => some (.ok (.word s.output), s.next)
  | fill count =>
    match Generator.coreCount count with
    | .ok n => some (.ok (.words (outputs n s)), advance n s)
    | .error e => some (.error e, s)
  | below bound =>
    match Generator.boundOf bound with
    | .ok b => ((outputs Generator.maxDraws s).findIdx? b.accepts).map fun k =>
        (.ok (b.remainder (advance k s).output), advance (k + 1) s)
    | .error e => some (.error e, s)
  | fraction => some (.ok (.real (Fraction.ofWords s.output s.next.output).toDouble), s.next.next)

/-- The operation's bound, if it has one, is not a double. -/
def HasWholeBound : Operation → Prop
  | below bound => ∀ x, bound ≠ .real x
  | _ => True

/-- In deterministic mode an operation has an answer unless its bound is a double. -/
theorem isSome_onCore {op : Operation} (whole : op.HasWholeBound) (s : State) : (op.onCore s).isSome := by
  cases op with
  | below bound =>
    cases given : Generator.boundOf bound with
    | error e =>
      rw [onCore, given]
      rfl
    | ok b =>
      obtain ⟨n, rfl, positive, small⟩ := Generator.whole_of_boundOf whole given
      obtain ⟨k, early, zero⟩ := exists_output_zero s
      have within : k < Generator.maxDraws := Nat.lt_trans early (by decide)
      have accepted := Generator.accepts_zero positive small
      rw [onCore, given]
      simp only [Option.isSome_map, List.findIdx?_isSome, List.any_eq_true]
      exact ⟨0, mem_outputs.mpr ⟨k, within, zero⟩, accepted⟩
  | setSeed seed =>
    rw [onCore]
    cases seed.asIndex <;> rfl
  | fill count =>
    rw [onCore]
    cases Generator.coreCount count <;> rfl
  | next | fraction => rfl

/-- What operations one after another do in deterministic mode. -/
def onCoreAll (ops : List Operation) (s : State) : Option (List (Except Failure Answer) × State) :=
  match ops with
  | [] => some ([], s)
  | op :: rest =>
    match op.onCore s with
    | none => none
    | some (answer, s) => (onCoreAll rest s).map fun r => (answer :: r.1, r.2)

theorem isSome_onCoreAll {ops : List Operation} (whole : ∀ op ∈ ops, op.HasWholeBound) (s : State) :
    (onCoreAll ops s).isSome := by
  induction ops generalizing s with
  | nil => rfl
  | cons op rest ih =>
    obtain ⟨first, later⟩ := List.forall_mem_cons.mp whole
    obtain ⟨r, answered⟩ := Option.isSome_iff_exists.mp (isSome_onCore first s)
    rw [onCoreAll, answered]
    simp only [Option.isSome_map]
    exact ih later r.2

end Operation

namespace Generator

variable [Memory]

/-- Over a stream an operation that is no seed does what it does on the state, if its count is taken for the
    same number of words. -/
theorem Streams.perform {k : State → Generator σ} (streams : Streams k) {op : Operation}
    (unseeded : ∀ seed, op ≠ .setSeed seed) {s : State}
    (counted : ∀ count, op = .fill count → fillCount (k s).mode count = coreCount count) :
    (k s).perform op = (op.onCore s).map fun r => (r.1, k r.2) := by
  cases op with
  | setSeed seed => exact absurd rfl (unseeded seed)
  | next =>
    rw [Generator.perform, streams]
    rfl
  | fill count =>
    rw [Generator.perform, counted count rfl, Operation.onCore]
    cases coreCount count with
    | error e => rfl
    | ok n =>
      simp only [streams.fill]
      rfl
  | below bound =>
    cases given : boundOf bound with
    | error e => simp only [Generator.perform, Operation.onCore, given, Option.map_some]
    | ok b =>
      rw [perform_below given, streams.drawUntil, Operation.onCore, given, Option.map_map, Option.map_map]
      rfl
  | fraction =>
    rw [Generator.perform, streams.fraction]
    rfl

/-- In deterministic mode an operation moves the core and nothing else. -/
theorem perform_seeded {op : Operation} (stays : op.StaysSeeded) {g : Generator σ} (mode : g.mode = .deterministic) :
    g.perform op = (op.onCore g.core).map fun r => (r.1, { g with core := r.2 }) := by
  cases op with
  | setSeed seed =>
    rw [perform, Operation.onCore]
    cases index : seed.asIndex with
    | error e => rfl
    | ok i =>
      simp only [setSeed_of_nonzero (stays i index), Option.map_some, mode]
  | next | fill | below | fraction =>
    have counted (count : Value) : fillCount g.mode count = coreCount count := by rw [mode, fillCount]
    refine (streams_deterministic mode).perform (fun seed same => ?_) fun count _ => counted count
    cases same

/-- What each operation does on a state, operations one after another do. -/
theorem performAll_of_perform {k : State → Generator σ} {ops : List Operation}
    (perform : ∀ op ∈ ops, ∀ s, (k s).perform op = (op.onCore s).map fun r => (r.1, k r.2)) (s : State) :
    (k s).performAll ops = (Operation.onCoreAll ops s).map fun r => (r.1, k r.2) := by
  induction ops generalizing s with
  | nil => rfl
  | cons op rest ih =>
    obtain ⟨first, later⟩ := List.forall_mem_cons.mp perform
    rw [performAll, first, Operation.onCoreAll]
    cases op.onCore s with
    | none => rfl
    | some r =>
      obtain ⟨answer, t⟩ := r
      simp only [Option.map_some, ih later, Option.map_map]
      rfl

/-- In deterministic mode operations one after another move the core and nothing else. -/
theorem performAll_seeded {ops : List Operation} (stays : ∀ op ∈ ops, op.StaysSeeded) {g : Generator σ}
    (mode : g.mode = .deterministic) :
    g.performAll ops = (Operation.onCoreAll ops g.core).map fun r => (r.1, { g with core := r.2 }) := by
  have perform : ∀ op ∈ ops, ∀ s, ({ g with core := s } : Generator σ).perform op =
      (op.onCore s).map fun r => (r.1, { g with core := r.2 }) := by
    intro op member s
    have same : ({ g with core := s } : Generator σ).mode = .deterministic := mode
    exact perform_seeded (stays op member) same
  exact performAll_of_perform perform g.core

end Generator

end SeedStream
