import SeedStream.Failure

/-!
# Results of steps

Steps that may fail give a result exactly if each of them gives one, so a computation that succeeded is taken apart
step by step.
-/

namespace SeedStream

variable {ε α β : Type}

theorem ok_bind (a : α) (f : α → Except ε β) : Except.ok a >>= f = f a := rfl

theorem bind_eq_ok_iff {x : Except ε α} {f : α → Except ε β} {b : β} : x >>= f = .ok b ↔ ∃ a, x = .ok a ∧ f a = .ok b := by
  cases x with
  | error e => exact ⟨nofun, nofun⟩
  | ok a => exact ⟨fun done => ⟨a, rfl, done⟩, fun ⟨_, same, done⟩ => by cases same; exact done⟩

theorem map_eq_ok_iff {x : Except ε α} {f : α → β} {b : β} : x.map f = .ok b ↔ ∃ a, x = .ok a ∧ f a = b := by
  cases x with
  | error e => exact ⟨nofun, nofun⟩
  | ok a => exact ⟨fun done => ⟨a, rfl, Except.ok.inj done⟩, fun ⟨_, same, done⟩ => by cases same; exact congrArg _ done⟩

theorem mapError_eq_ok_iff {δ : Type} {x : Except ε α} {f : ε → δ} {a : α} : x.mapError f = .ok a ↔ x = .ok a := by
  cases x with
  | error e => exact ⟨nofun, nofun⟩
  | ok b => exact ⟨fun same => congrArg _ (Except.ok.inj same), fun same => congrArg _ (Except.ok.inj same)⟩

theorem forM_eq_ok {l : List α} {f : α → Except ε Unit} (each : ∀ a ∈ l, f a = .ok ()) : l.forM f = .ok () := by
  induction l with
  | nil => rfl
  | cons a rest ih =>
    obtain ⟨first, others⟩ := List.forall_mem_cons.mp each
    rw [List.forM_eq_forM, List.forM_cons, first]
    exact ih others

/-- A list of steps fails with the failure of the first step that fails, whatever comes behind it. -/
theorem mapM_eq_error {before later : List α} {a : α} {f : α → Except ε β} {e : ε}
    (each : ∀ b ∈ before, ∃ c, f b = .ok c) (fails : f a = .error e) : (before ++ a :: later).mapM f = .error e := by
  induction before with
  | nil =>
    rw [List.nil_append, List.mapM_cons, fails]
    rfl
  | cons b rest ih =>
    obtain ⟨⟨c, first⟩, others⟩ := List.forall_mem_cons.mp each
    rw [List.cons_append, List.mapM_cons, first, ih others]
    rfl

end SeedStream
