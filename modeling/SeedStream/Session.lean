import SeedStream.Operation

/-!
# Sessions

Callers may bring a generator of their own; one who brings none uses the generator that all such
callers share. A session keeps both.
-/

namespace SeedStream

/-- Whose generator is used. -/
inductive Target
  | shared
  | own
  deriving DecidableEq, Repr

/-- A caller who brings a generator uses it, and any other the shared one. -/
def Target.ofCaller (bringsOwn : Bool) : Target :=
  if bringsOwn then own else shared

/-- The shared generator and one that a caller brings. -/
structure Session (σ τ : Type) where
  shared : Generator σ
  own : Generator τ

namespace Session

variable [Memory] {σ τ : Type} [EntropySource σ] [EntropySource τ]

/-- Ask for an operation on one of the two generators. -/
def perform (target : Target) (op : Operation) (s : Session σ τ) :
    Option (Except Failure Answer × Session σ τ) :=
  match target with
  | .shared => (s.shared.perform op).map fun r => (r.1, { s with shared := r.2 })
  | .own => (s.own.perform op).map fun r => (r.1, { s with own := r.2 })

/-- An operation on one's own generator does not touch the shared one. -/
theorem perform_own_shared {op : Operation} {s t : Session σ τ} {r : Except Failure Answer}
    (h : s.perform .own op = some (r, t)) : t.shared = s.shared := by
  simp only [perform, Option.map_eq_some_iff] at h
  obtain ⟨_, _, same⟩ := h
  cases same
  rfl

end Session

end SeedStream
