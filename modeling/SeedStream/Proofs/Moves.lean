import SeedStream.Proofs.Draws

/-!
# Moves of a generator

Whatever an operation answers, it moves the generator in one of two ways: it hands it a seed, or it draws
from it some number of times (`Generator.perform_moves`). What seeds and draws keep, a run of operations
keeps (`Generator.performAll_induction`), failures included.
-/

namespace SeedStream

open State

variable {σ : Type} [EntropySource σ]

/-- The seed that an operation hands to a generator; one that is no integer is refused. -/
def Operation.seed? : Operation → Option Int
  | setSeed seed => seed.integer?
  | _ => none

/-- The seeds that a generator was given: the one that it was made with and those of the operations. -/
def Operation.seedsGiven (first : Option Int) (ops : List Operation) : List Int :=
  first.toList ++ ops.filterMap seed?

theorem Operation.seedsGiven_concat (first : Option Int) (ops : List Operation) (op : Operation) :
    seedsGiven first (ops ++ [op]) = seedsGiven first ops ++ op.seed?.toList := by
  rw [seedsGiven, seedsGiven, List.filterMap_append, List.append_assoc]
  rfl

namespace Generator

/-! ## Operations as moves -/

theorem fill_moves (n : Nat) (g : Generator σ) : ∃ k, (g.fill n).2 = after k g := by
  obtain ⟨ws, -, -, filled⟩ | ⟨ws, e, -, -, filled⟩ := fill_draws n g
  · exact ⟨n, by rw [filled]⟩
  · exact ⟨ws.length + 1, by rw [filled]⟩

theorem drawUntil_moves {accepts : Word → Bool} {fuel : Nat} {g : Generator σ} {r : Except Failure Word × Generator σ}
    (result : g.drawUntil accepts fuel = some r) : ∃ k, r.2 = after k g := by
  obtain ⟨rejected, last, -, -, -, -, rfl⟩ := drawUntil_eq_some_iff.mp result
  exact ⟨rejected.length + 1, rfl⟩

theorem fraction_moves (g : Generator σ) : ∃ k, g.fraction.2 = after k g := by
  rw [fraction]
  rcases first : g.draw with ⟨_ | a, h⟩
  · exact ⟨1, by rw [after, first, after]⟩
  · rcases second : h.draw with ⟨_ | b, t⟩
    all_goals exact ⟨2, by simp only [after, first, second]⟩

variable [Memory]

/-- An operation hands the generator its seed or, without one, draws a number of times. -/
theorem perform_moves {op : Operation} {g : Generator σ} {r : Except Failure Answer × Generator σ}
    (result : g.perform op = some r) :
    (∃ i, op.seed? = some i ∧ r.2 = g.setSeed i) ∨ op.seed? = none ∧ ∃ n, r.2 = after n g := by
  cases op with
  | setSeed seed =>
    rw [perform, Value.asIndex] at result
    cases integer : seed.integer? with
    | some i =>
      rw [integer] at result
      cases result
      exact .inl ⟨i, integer, rfl⟩
    | none =>
      rw [integer] at result
      cases result
      exact .inr ⟨integer, 0, rfl⟩
  | next =>
    cases result
    exact .inr ⟨rfl, 1, rfl⟩
  | fill count =>
    rw [perform] at result
    cases counted : fillCount g.mode count with
    | error e =>
      rw [counted] at result
      cases result
      exact .inr ⟨rfl, 0, rfl⟩
    | ok n =>
      rw [counted] at result
      cases result
      exact .inr ⟨rfl, fill_moves n g⟩
  | below bound =>
    cases given : boundOf bound with
    | error e =>
      simp only [perform, given, Option.some.injEq] at result
      exact .inr ⟨rfl, 0, by rw [← result, after]⟩
    | ok b =>
      rw [perform_below given] at result
      obtain ⟨t, found, rfl⟩ := Option.map_eq_some_iff.mp result
      exact .inr ⟨rfl, drawUntil_moves found⟩
  | fraction =>
    cases result
    exact .inr ⟨rfl, fraction_moves g⟩

/-! ## Runs -/

theorem performAll_cons_eq_some {op : Operation} {ops : List Operation} {g : Generator σ}
    {r : List (Except Failure Answer) × Generator σ} (run : g.performAll (op :: ops) = some r) :
    ∃ first later, g.perform op = some first ∧ first.2.performAll ops = some later ∧
      r = (first.1 :: later.1, later.2) := by
  rw [performAll] at run
  cases done : g.perform op with
  | none =>
    rw [done] at run
    cases run
  | some first =>
    rw [done] at run
    obtain ⟨later, rest, rfl⟩ := Option.map_eq_some_iff.mp run
    exact ⟨first, later, rfl, rest, rfl⟩

theorem performAll_append (before later : List Operation) (g : Generator σ) :
    g.performAll (before ++ later) =
      (g.performAll before).bind fun r => (r.2.performAll later).map fun t => (r.1 ++ t.1, t.2) := by
  induction before generalizing g with
  | nil => simp [performAll]
  | cons op rest ih =>
    rw [List.cons_append, performAll, performAll]
    cases g.perform op with
    | none => rfl
    | some first =>
      simp only [ih]
      cases first.2.performAll rest with
      | none => rfl
      | some r =>
        simp only [Option.bind_some, Option.map_some, Option.map_map]
        rfl

theorem performAll_concat_eq_some {ops : List Operation} {op : Operation} {g : Generator σ}
    {r : List (Except Failure Answer) × Generator σ} (run : g.performAll (ops ++ [op]) = some r) :
    ∃ before last, g.performAll ops = some before ∧ before.2.perform op = some last ∧
      r = (before.1 ++ [last.1], last.2) := by
  rw [performAll_append] at run
  obtain ⟨before, first, rest⟩ := Option.bind_eq_some_iff.mp run
  obtain ⟨_, one, rfl⟩ := Option.map_eq_some_iff.mp rest
  obtain ⟨last, _, done, none, rfl⟩ := performAll_cons_eq_some one
  cases none
  exact ⟨before, last, first, done, rfl⟩

/-- What draws keep, and seeds keep that are counted, a run keeps. -/
theorem performAll_induction {P : List Int → Generator σ → Prop}
    (draw : ∀ seeds g, P seeds g → P seeds g.draw.2)
    (seed : ∀ seeds g i, P seeds g → P (seeds ++ [i]) (g.setSeed i))
    {ops : List Operation} {seeds : List Int} {g : Generator σ} {r : List (Except Failure Answer) × Generator σ}
    (start : P seeds g) (run : g.performAll ops = some r) : P (seeds ++ ops.filterMap Operation.seed?) r.2 := by
  induction ops generalizing seeds g r with
  | nil =>
    cases run
    rwa [List.filterMap_nil, List.append_nil]
  | cons op rest ih =>
    obtain ⟨first, later, done, remaining, rfl⟩ := performAll_cons_eq_some run
    obtain ⟨i, given, moved⟩ | ⟨none, n, moved⟩ := perform_moves done
    · have next := ih (moved ▸ seed seeds g i start) remaining
      rwa [List.append_assoc, List.singleton_append, ← List.filterMap_cons_some given] at next
    · have next := ih (moved ▸ after_induction (draw seeds) n start) remaining
      rwa [← List.filterMap_cons_none none] at next

/-- The same from the start: what holds of a generator without a seed, and is kept, holds after every run. -/
theorem performAll_make_induction {P : List Int → Generator σ → Prop} {source : σ} (start : P [] (ofSource source))
    (draw : ∀ seeds g, P seeds g → P seeds g.draw.2)
    (seed : ∀ seeds g i, P seeds g → P (seeds ++ [i]) (g.setSeed i))
    {first : Option Int} {ops : List Operation} {r : List (Except Failure Answer) × Generator σ}
    (run : (make source first).performAll ops = some r) : P (Operation.seedsGiven first ops) r.2 := by
  cases first with
  | none => exact performAll_induction draw seed start run
  | some i => exact performAll_induction draw seed (seed [] _ i start) run

end Generator

end SeedStream
