import SeedStream.Proofs.Deterministic

/-!
# Draws in a row

What a generator makes of draws one after another, failures included (`Generator.draws`), whatever its mode.
A block takes as many draws as it has words, or those up to the first that fails; a search takes those up to
the first that is accepted or fails.
-/

namespace SeedStream.Generator

open State

variable {σ : Type} [EntropySource σ]

/-- The generator after a number of draws, whatever they give. -/
def after : Nat → Generator σ → Generator σ
  | 0, g => g
  | n + 1, g => after n g.draw.2

theorem mode_after (n : Nat) (g : Generator σ) : (after n g).mode = g.mode := by
  induction n generalizing g with
  | zero => rfl
  | succ n ih => rw [after, ih, mode_draw]

/-- What a draw keeps, any number of draws keep. -/
theorem after_induction {P : Generator σ → Prop} (draw : ∀ g, P g → P g.draw.2) (n : Nat) {g : Generator σ}
    (start : P g) : P (after n g) := by
  induction n generalizing g with
  | zero => exact start
  | succ n ih => exact ih (draw g start)

theorem Streams.after {k : State → Generator σ} (streams : Streams k) (n : Nat) (s : State) :
    after n (k s) = k (advance n s) := by
  induction n generalizing s with
  | zero => rfl
  | succ n ih => rw [Generator.after, streams, ih, advance]

theorem after_deterministic (n : Nat) {g : Generator σ} (mode : g.mode = .deterministic) :
    after n g = { g with core := advance n g.core } :=
  (streams_deterministic mode).after n g.core

theorem draw_native {g : Generator σ} (mode : g.mode = .native) :
    g.draw = ((EntropySource.draw g.source).1.map Word.ofInt,
      { g with source := (EntropySource.draw g.source).2 }) := by
  rw [draw, mode]
  obtain ⟨_ | i, source⟩ := EntropySource.draw g.source <;> rfl

theorem core_after_native (n : Nat) {g : Generator σ} (mode : g.mode = .native) : (after n g).core = g.core := by
  induction n generalizing g with
  | zero => rfl
  | succ n ih =>
    rw [after, ih ((mode_draw g).trans mode), draw_native mode]

/-- What a number of draws in a row give, failures included. -/
def draws : Nat → Generator σ → List (Except Failure Word)
  | 0, _ => []
  | n + 1, g => g.draw.1 :: draws n g.draw.2

theorem after_add (m n : Nat) (g : Generator σ) : after (m + n) g = after n (after m g) := by
  induction m generalizing g with
  | zero => rw [Nat.zero_add, after]
  | succ m ih => rw [Nat.succ_add, after, after, ih]

theorem draws_add (m n : Nat) (g : Generator σ) : draws (m + n) g = draws m g ++ draws n (after m g) := by
  induction m generalizing g with
  | zero => rw [Nat.zero_add, draws, after, List.nil_append]
  | succ m ih => rw [Nat.succ_add, draws, draws, after, ih, List.cons_append]

theorem Streams.draws {k : State → Generator σ} (streams : Streams k) (n : Nat) (s : State) :
    draws n (k s) = (outputs n s).map .ok := by
  induction n generalizing s with
  | zero => rfl
  | succ n ih => rw [Generator.draws, streams, ih, outputs_succ, List.map_cons]

theorem draws_deterministic (n : Nat) {g : Generator σ} (mode : g.mode = .deterministic) :
    draws n g = (outputs n g.core).map .ok :=
  (streams_deterministic mode).draws n g.core

/-! ## Blocks -/

theorem map_ok_inj {ws vs : List Word} : ws.map (Except.ok (ε := Failure)) = vs.map .ok ↔ ws = vs :=
  (List.map_injective_iff.mpr fun _ _ same => Except.ok.inj same).eq_iff

theorem error_notMem_map_ok (e : Failure) (ws : List Word) : .error e ∉ ws.map Except.ok := by
  simp

/-- Draws are kept up to the first that fails, whose failure the row hands on. -/
theorem fillFrom_draws (done : List Word) (n : Nat) (g : Generator σ) :
    (∃ ws : List Word, ws.length = n ∧ draws n g = ws.map .ok ∧
        fillFrom done n g = (.ok (done.reverse ++ ws), after n g)) ∨
      ∃ (ws : List Word) (e : Failure), ws.length < n ∧ draws (ws.length + 1) g = ws.map .ok ++ [.error e] ∧
        fillFrom done n g = (.error e.inRow, after (ws.length + 1) g) := by
  induction n generalizing done g with
  | zero => exact .inl ⟨[], rfl, rfl, by rw [fillFrom, List.append_nil, after]⟩
  | succ n ih =>
    rw [fillFrom]
    simp only [draws, after]
    rcases g.draw with ⟨e | w, h⟩
    · exact .inr ⟨[], e, Nat.succ_pos n, rfl, rfl⟩
    · obtain ⟨ws, length, given, filled⟩ | ⟨ws, e, short, given, filled⟩ := ih (w :: done) h
      · refine .inl ⟨w :: ws, congrArg (· + 1) length, congrArg (List.cons _) given, ?_⟩
        simpa using filled
      · exact .inr ⟨w :: ws, e, Nat.succ_lt_succ short, congrArg (List.cons _) given, filled⟩

/-- A block is the words of as many draws, or the failure of the first that fails, as a row hands it on. -/
theorem fill_draws (n : Nat) (g : Generator σ) :
    (∃ ws : List Word, ws.length = n ∧ draws n g = ws.map .ok ∧ g.fill n = (.ok ws, after n g)) ∨
      ∃ (ws : List Word) (e : Failure), ws.length < n ∧ draws (ws.length + 1) g = ws.map .ok ++ [.error e] ∧
        g.fill n = (.error e.inRow, after (ws.length + 1) g) := by
  rw [fill_eq_fillFrom]
  exact fillFrom_draws [] n g

/-! ## Searches -/

/-- A search ends, within its draws, with the first that is accepted or fails. -/
theorem drawUntil_eq_some_iff {accepts : Word → Bool} {fuel : Nat} {g : Generator σ}
    {r : Except Failure Word × Generator σ} :
    g.drawUntil accepts fuel = some r ↔
      ∃ (rejected : List Word) (last : Except Failure Word), rejected.length < fuel ∧
        (∀ w ∈ rejected, accepts w = false) ∧ (∀ w, last = .ok w → accepts w = true) ∧
        draws (rejected.length + 1) g = rejected.map .ok ++ [last] ∧
        r = (last, after (rejected.length + 1) g) := by
  induction fuel generalizing g with
  | zero =>
    constructor
    · intro found
      cases found
    · rintro ⟨rejected, last, short, -⟩
      exact absurd short (Nat.not_lt_zero _)
  | succ fuel ih =>
    rw [drawUntil]
    simp only [draws, after]
    rcases g.draw with ⟨e | w, h⟩
    · constructor
      · intro found
        cases found
        refine ⟨[], .error e, Nat.succ_pos fuel, List.forall_mem_nil _, ?_, rfl, rfl⟩
        intro v same
        cases same
      · rintro ⟨rejected, last, -, -, -, given, rfl⟩
        cases rejected with
        | nil =>
          cases given
          rfl
        | cons v rest => cases given
    · cases accepted : accepts w with
      | true =>
        simp only [accepted, if_true, Option.some.injEq]
        constructor
        · rintro rfl
          refine ⟨[], .ok w, Nat.succ_pos fuel, List.forall_mem_nil _, ?_, rfl, rfl⟩
          intro v same
          cases same
          exact accepted
        · rintro ⟨rejected, last, -, before, -, given, rfl⟩
          cases rejected with
          | nil =>
            cases given
            rfl
          | cons v rest =>
            obtain ⟨same, -⟩ := List.cons.inj given
            cases same
            rw [before w List.mem_cons_self] at accepted
            cases accepted
      | false =>
        simp only [accepted, Bool.false_eq_true, if_false, ih]
        constructor
        · rintro ⟨rejected, last, short, before, settled, given, rfl⟩
          exact ⟨w :: rejected, last, Nat.succ_lt_succ short, List.forall_mem_cons.mpr ⟨accepted, before⟩, settled,
            congrArg (List.cons _) given, rfl⟩
        · rintro ⟨rejected, last, short, before, settled, given, rfl⟩
          cases rejected with
          | nil =>
            cases given
            rw [settled w rfl] at accepted
            cases accepted
          | cons v rest =>
            obtain ⟨-, others⟩ := List.forall_mem_cons.mp before
            obtain ⟨-, given⟩ := List.cons.inj given
            exact ⟨rest, last, Nat.lt_of_succ_lt_succ short, others, settled, given, rfl⟩

/-- A search gives the first accepted word, all before it thrown away and none after it drawn. -/
theorem drawUntil_eq_some_ok_iff {accepts : Word → Bool} {fuel : Nat} {g h : Generator σ} {v : Word} :
    g.drawUntil accepts fuel = some (.ok v, h) ↔
      accepts v = true ∧ ∃ rejected : List Word, rejected.length < fuel ∧ (∀ w ∈ rejected, accepts w = false) ∧
        draws (rejected.length + 1) g = (rejected ++ [v]).map .ok ∧ h = after (rejected.length + 1) g := by
  rw [drawUntil_eq_some_iff]
  constructor
  · rintro ⟨rejected, last, short, before, settled, given, same⟩
    obtain ⟨rfl, rfl⟩ := Prod.mk.inj same
    exact ⟨settled v rfl, rejected, short, before, by rw [given, List.map_append, List.map_singleton], rfl⟩
  · rintro ⟨accepted, rejected, short, before, given, rfl⟩
    refine ⟨rejected, .ok v, short, before, ?_, by rw [given, List.map_append, List.map_singleton], rfl⟩
    intro w same
    cases same
    exact accepted

end SeedStream.Generator
