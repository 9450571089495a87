import SeedStream.Entropy.Native
import SeedStream.Proofs.SeededRuns
import SeedStream.Proofs.Moves

/-!
# Failed draws

An operation fails for one of two reasons. Its argument is refused, and then nothing has happened; or, in
native mode only, a draw of the source failed, and then the failure is the source's own and nothing was
moved but the source, by the draws that were attempted. Only a source that says that it has ended is not
heard everywhere: a block fails of it in its own words (`Operation.handsOn`). What an operation makes of the
attempts (`Operation.Attempts`) does not involve the core, and operations one after another make their
attempts where the ones before left off, failed or not (`Operation.AttemptInTurn`).
-/

namespace SeedStream

variable {σ : Type} [EntropySource σ]

namespace EntropySource

/-- The source after a number of draws, whatever they give. -/
def later : Nat → σ → σ
  | 0, s => s
  | n + 1, s => later n (draw s).2

/-- What a number of draws give, as words, failures included. -/
def attempts : Nat → σ → List (Except Failure Word)
  | 0, _ => []
  | n + 1, s => (draw s).1.map Word.ofInt :: attempts n (draw s).2

theorem length_attempts (n : Nat) (s : σ) : (attempts n s).length = n := by
  induction n generalizing s with
  | zero => rfl
  | succ n ih => rw [attempts, List.length_cons, ih]

theorem later_add (m n : Nat) (s : σ) : later (m + n) s = later n (later m s) := by
  induction m generalizing s with
  | zero => rw [Nat.zero_add, later]
  | succ m ih => rw [Nat.succ_add, later, later, ih]

theorem attempts_add (m n : Nat) (s : σ) : attempts (m + n) s = attempts m s ++ attempts n (later m s) := by
  induction m generalizing s with
  | zero => rw [Nat.zero_add, attempts, later, List.nil_append]
  | succ m ih => rw [Nat.succ_add, attempts, attempts, later, ih, List.cons_append]

end EntropySource

open EntropySource

namespace Operation

/-! ## What an operation makes of attempts -/

/-- The failure of a draw as an operation hands it on. Only a block makes its draws in a row. -/
def handsOn : Operation → Failure → Failure
  | fill _, e => e.inRow
  | _, e => e

theorem handsOn_cases (op : Operation) (cause : Failure) :
    op.handsOn cause = cause ∨ ∃ count text, op = fill count ∧ cause = .ended text ∧ op.handsOn cause = .rowEnded := by
  cases op with
  | fill count =>
    obtain same | ⟨text, ended, handed⟩ := cause.inRow_cases
    · exact .inl same
    · exact .inr ⟨count, text, rfl, ended, handed⟩
  | setSeed | next | below | fraction => exact .inl rfl

variable [Memory]

/-- The argument of an operation is refused in a mode, for this reason. -/
inductive Refused (mode : Mode) : Operation → Failure → Prop
  | seed {seed : Value} {e : Failure} (index : seed.asIndex = .error e) : Refused mode (setSeed seed) e
  | count {count : Value} {e : Failure} (counted : Generator.fillCount mode count = .error e) :
      Refused mode (fill count) e
  | bound {bound : Value} {e : Failure} (given : Generator.boundOf bound = .error e) :
      Refused mode (below bound) e

/-- In native mode the operation needs a further word behind these. -/
inductive Awaits : Operation → List Word → Prop
  | next : Awaits next []
  | fill {count : Value} {n : Nat} (counted : Generator.drawCount count = .ok n) {ws : List Word}
      (short : ws.length < n) : Awaits (fill count) ws
  | below {bound : Value} {b : Generator.Bound} (given : Generator.boundOf bound = .ok b) {rejected : List Word}
      (before : ∀ r ∈ rejected, b.accepts r = false) : Awaits (below bound) rejected
  | high : Awaits fraction []
  | low (a : Word) : Awaits fraction [a]

/-- In native mode the operation attempts these draws and gives this answer. The first attempt that fails
    is the last, and its failure is the answer, as the operation hands it on. -/
inductive Attempts : Operation → List (Except Failure Word) → Except Failure Answer → Prop
  | refused {op : Operation} {e : Failure} (refused : op.Refused .native e) : Attempts op [] (.error e)
  | failed {op : Operation} {ws : List Word} (awaits : op.Awaits ws) (e : Failure) :
      Attempts op (ws.map .ok ++ [.error e]) (.error (op.handsOn e))
  | next (w : Word) : Attempts next [.ok w] (.ok (.word w))
  | fill {count : Value} {ws : List Word} (counted : Generator.drawCount count = .ok ws.length) :
      Attempts (fill count) (ws.map .ok) (.ok (.words ws))
  | below {bound : Value} {b : Generator.Bound} (given : Generator.boundOf bound = .ok b) {rejected : List Word}
      (before : ∀ r ∈ rejected, b.accepts r = false) {w : Word} (accepted : b.accepts w = true) :
      Attempts (below bound) (rejected.map .ok ++ [.ok w]) (.ok (b.remainder w))
  | fraction (a b : Word) : Attempts fraction [.ok a, .ok b] (.ok (.real (Fraction.ofWords a b).toDouble))

/-- The operations attempt these draws one after another and give these answers. -/
inductive AttemptInTurn : List Operation → List (Except Failure Word) → List (Except Failure Answer) → Prop
  | nil : AttemptInTurn [] [] []
  | cons {op : Operation} {rs : List (Except Failure Word)} {answer : Except Failure Answer}
      {ops : List Operation} {later : List (Except Failure Word)} {answers : List (Except Failure Answer)}
      (first : op.Attempts rs answer) (rest : AttemptInTurn ops later answers) :
      AttemptInTurn (op :: ops) (rs ++ later) (answer :: answers)

theorem refused_seed (mode : Mode) {seed : Value} (other : seed.integer? = none) :
    (setSeed seed).Refused mode (.kind (.index seed.kind)) := by
  refine .seed ?_
  rw [Value.asIndex, other]

theorem refused_count (mode : Mode) {count : Value} (negative : count.compareInt? 0 = some .lt) :
    (fill count).Refused mode (.value (.negativeCount count.display)) := by
  have number : count.isNumber = true := by
    cases count with
    | bool _ | int _ | real _ => rfl
    | _ => cases negative
  refine .count ?_
  cases mode with
  | native => simp [Generator.fillCount, Generator.drawCount, number, negative]
  | deterministic => simp [Generator.fillCount, Generator.coreCount, number, negative]

theorem refused_bound (mode : Mode) {n : Int} (outside : n < 1 ∨ 2 ^ 32 < n) :
    (below (.int n)).Refused mode (.value (.bound (Value.int n).display)) := by
  refine .bound ?_
  rw [Generator.boundOf_of_integer (i := n) rfl, if_neg]
  omega

/-- A refused argument changes nothing, the source included. -/
theorem Refused.perform {op : Operation} {g : Generator σ} {e : Failure} (refused : op.Refused g.mode e) :
    g.perform op = some (.error e, g) := by
  cases refused with
  | seed index => rw [Generator.perform, index]
  | count counted => rw [Generator.perform, counted]
  | bound given => rw [Generator.perform, given]

end Operation

namespace Generator

/-! ## Draws in native mode -/

theorem draws_native (n : Nat) {g : Generator σ} (mode : g.mode = .native) : draws n g = attempts n g.source := by
  induction n generalizing g with
  | zero => rfl
  | succ n ih => rw [draws, attempts, ih ((mode_draw g).trans mode), draw_native mode]

theorem after_native (n : Nat) {g : Generator σ} (mode : g.mode = .native) :
    after n g = { g with source := later n g.source } := by
  induction n generalizing g with
  | zero => rfl
  | succ n ih => rw [after, later, ih ((mode_draw g).trans mode), draw_native mode]

section

variable [Memory]

/-- In native mode an operation without a seed answers from its attempts to draw, and moves the source by
    these attempts and nothing else. -/
theorem attempts_of_perform {op : Operation} (draws : op.Draws) {g : Generator σ} (mode : g.mode = .native)
    {r : Except Failure Answer × Generator σ} (done : g.perform op = some r) :
    ∃ n, op.Attempts (attempts n g.source) r.1 ∧ r.2 = { g with source := later n g.source } := by
  -- One case for each operation: what was attempted is the failure or the answer that its own loop ends with.
  cases op with
  | setSeed seed => exact draws.elim
  | next =>
    rw [perform, draw_native mode] at done
    cases done
    refine ⟨1, ?_, rfl⟩
    simp only [attempts]
    cases (EntropySource.draw g.source).1 with
    | error e => exact .failed .next e
    | ok i => exact .next (Word.ofInt i)
  | fill count =>
    rw [perform] at done
    cases counted : fillCount g.mode count with
    | error e =>
      rw [counted] at done
      cases done
      rw [mode] at counted
      exact ⟨0, .refused (.count counted), rfl⟩
    | ok n =>
      rw [counted] at done
      rw [mode, fillCount] at counted
      obtain ⟨ws, rfl, given, filled⟩ | ⟨ws, e, short, given, filled⟩ := fill_draws n g
      · simp only [filled] at done
        cases done
        rw [draws_native _ mode] at given
        exact ⟨ws.length, given ▸ .fill counted, after_native _ mode⟩
      · simp only [filled] at done
        cases done
        rw [draws_native _ mode] at given
        exact ⟨ws.length + 1, given ▸ .failed (.fill counted short) e, after_native _ mode⟩
  | below bound =>
    cases given : boundOf bound with
    | error e =>
      simp only [perform, given, Option.some.injEq] at done
      rw [← done]
      exact ⟨0, .refused (.bound given), rfl⟩
    | ok b =>
      rw [perform_below given] at done
      obtain ⟨t, found, rfl⟩ := Option.map_eq_some_iff.mp done
      obtain ⟨rejected, last, -, before, settled, drawn, rfl⟩ := drawUntil_eq_some_iff.mp found
      refine ⟨rejected.length + 1, ?_, after_native _ mode⟩
      rw [← draws_native _ mode, drawn]
      cases last with
      | error e => exact .failed (.below given before) e
      | ok w => exact .below given before (settled w rfl)
  | fraction =>
    rw [perform, fraction, draw_native mode] at done
    rcases first : EntropySource.draw g.source with ⟨e | a, s⟩
    · rw [first] at done
      cases done
      refine ⟨1, ?_, by simp only [later, first]⟩
      simp only [attempts, first]
      exact .failed .high e
    · rw [first] at done
      simp only [Except.map, draw_native (g := { g with source := s }) mode] at done
      rcases second : EntropySource.draw s with ⟨e | b, t⟩
      all_goals
        rw [second] at done
        cases done
        refine ⟨2, ?_, by simp only [later, first, second]⟩
        simp only [attempts, first, second]
      · exact .failed (.low (Word.ofInt a)) e
      · exact .fraction (Word.ofInt a) (Word.ofInt b)

/-- Operations without a seed one after another attempt the draws of the source in order, none twice and
    none left out, also behind a failure. -/
theorem attemptInTurn_of_performAll {ops : List Operation} (draws : ∀ op ∈ ops, op.Draws) {g : Generator σ}
    (mode : g.mode = .native) {r : List (Except Failure Answer) × Generator σ} (run : g.performAll ops = some r) :
    ∃ n, Operation.AttemptInTurn ops (attempts n g.source) r.1 ∧
      r.2 = { g with source := later n g.source } := by
  induction ops generalizing g r with
  | nil =>
    cases run
    exact ⟨0, .nil, rfl⟩
  | cons op rest ih =>
    obtain ⟨first, others⟩ := List.forall_mem_cons.mp draws
    obtain ⟨one, more, done, remaining, rfl⟩ := performAll_cons_eq_some run
    obtain ⟨m, made, moved⟩ := attempts_of_perform first mode done
    rw [moved] at remaining
    obtain ⟨n, inTurn, last⟩ := ih others (g := { g with source := later m g.source }) mode remaining
    refine ⟨m + n, ?_, ?_⟩
    · rw [attempts_add]
      exact .cons made inTurn
    · rw [last, later_add]

/-! ## Failures -/

theorem refused_of_perform_setSeed {seed : Value} {g h : Generator σ} {e : Failure}
    (failed : g.perform (.setSeed seed) = some (.error e, h)) : (Operation.setSeed seed).Refused g.mode e ∧ h = g := by
  rw [perform] at failed
  cases index : seed.asIndex with
  | error e =>
    rw [index] at failed
    cases failed
    exact ⟨.seed index, rfl⟩
  | ok i =>
    rw [index] at failed
    cases failed

/-- In deterministic mode an operation fails only for its argument, and nothing has happened then. -/
theorem refused_of_perform_deterministic {op : Operation} {g h : Generator σ} {e : Failure}
    (mode : g.mode = .deterministic) (failed : g.perform op = some (.error e, h)) :
    op.Refused g.mode e ∧ h = g := by
  cases op with
  | setSeed seed => exact refused_of_perform_setSeed failed
  | next =>
    rw [perform, draw_deterministic mode] at failed
    cases failed
  | fill count =>
    rw [perform] at failed
    cases counted : fillCount g.mode count with
    | error e =>
      rw [counted] at failed
      cases failed
      exact ⟨.count counted, rfl⟩
    | ok n =>
      rw [counted] at failed
      simp only [fill_seeded n mode] at failed
      cases failed
  | below bound =>
    cases given : boundOf bound with
    | error e =>
      simp only [perform, given] at failed
      cases failed
      exact ⟨.bound given, rfl⟩
    | ok b =>
      rw [perform_below given, drawUntil_seeded _ _ mode, Option.map_map] at failed
      obtain ⟨k, -, same⟩ := Option.map_eq_some_iff.mp failed
      cases same
  | fraction =>
    rw [perform, fraction_seeded mode] at failed
    cases failed

/-- In native mode an operation fails for its argument, or hands on the failure of its last attempt to draw. -/
theorem cases_of_perform_native {op : Operation} {g h : Generator σ} {e : Failure} (mode : g.mode = .native)
    (failed : g.perform op = some (.error e, h)) :
    op.Refused g.mode e ∧ h = g ∨
      ∃ (ws : List Word) (cause : Failure), e = op.handsOn cause ∧ op.Awaits ws ∧
        attempts (ws.length + 1) g.source = ws.map .ok ++ [.error cause] ∧
        h = { g with source := later (ws.length + 1) g.source } := by
  by_cases draws : op.Draws
  · obtain ⟨n, made, moved⟩ := attempts_of_perform draws mode failed
    have length := length_attempts n g.source
    generalize given : attempts n g.source = rs at made length
    cases made with
    | refused refused =>
      cases length
      exact .inl ⟨mode ▸ refused, moved⟩
    | @failed _ ws awaits cause =>
      have count : n = ws.length + 1 := by simp [← length]
      subst count
      exact .inr ⟨ws, cause, rfl, awaits, given, moved⟩
  · cases op with
    | setSeed seed => exact .inl (refused_of_perform_setSeed failed)
    | next | fill | below | fraction => exact absurd trivial draws

end

section

attribute [local instance] Memory.standard

end

end Generator

end SeedStream
