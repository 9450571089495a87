import SeedStream.Proofs.Deterministic

/-!
# Traced sources

A generator asks its source for nothing but new seeds and draws, so a map of sources that goes with both
(`IsSourceMap`) goes with every operation: the answers are the same, and the sources correspond. A source
that keeps a trace of its draws (`Traced`) therefore changes nothing for a caller, and tells what was drawn
since it was last seeded anew.
-/

namespace SeedStream

variable {σ τ : Type} [EntropySource σ] [EntropySource τ]

/-- A map of sources that seeding anew and drawing go with. -/
structure IsSourceMap (f : σ → τ) : Prop where
  reseed (s : σ) : EntropySource.reseed (f s) = f (EntropySource.reseed s)
  draw (s : σ) : EntropySource.draw (f s) = ((EntropySource.draw s).1, f (EntropySource.draw s).2)

/-- A source with what its draws gave since it was last seeded anew. -/
structure Traced (σ : Type) where
  source : σ
  /-- The results of the draws in order, failures included. -/
  draws : List (Except Failure Int)

namespace Traced

instance : EntropySource (Traced σ) where
  reseed t := ⟨EntropySource.reseed t.source, []⟩
  draw t := ((EntropySource.draw t.source).1,
    ⟨(EntropySource.draw t.source).2, t.draws ++ [(EntropySource.draw t.source).1]⟩)

/-- A source of which nothing was drawn. -/
def fresh (source : σ) : Traced σ := ⟨source, []⟩

/-- Leaving out the trace goes with seeding anew and drawing. -/
theorem isSourceMap_source : IsSourceMap (source : Traced σ → σ) := ⟨fun _ => rfl, fun _ => rfl⟩

end Traced

namespace Generator

/-- The generator with a source in place of its own. -/
def mapSource (f : σ → τ) (g : Generator σ) : Generator τ :=
  ⟨g.mode, g.core, f g.source⟩

/-- An answer together with the generator that has another source in place of its own. -/
def mapResult {α : Type} (f : σ → τ) (r : α × Generator σ) : α × Generator τ :=
  (r.1, r.2.mapSource f)

variable {f : σ → τ}

theorem setSeed_mapSource (map : IsSourceMap f) (seed : Int) (g : Generator σ) :
    (g.mapSource f).setSeed seed = (g.setSeed seed).mapSource f := by
  rw [setSeed, setSeed]
  split
  · simp only [mapSource, map.reseed]
  · rfl

theorem make_mapSource (map : IsSourceMap f) (source : σ) (seed : Option Int) :
    make (f source) seed = (make source seed).mapSource f := by
  have start : ofSource (f source) = (ofSource source).mapSource f := by
    rw [ofSource, map.reseed]
    rfl
  cases seed with
  | none => exact start
  | some i => rw [make, start, setSeed_mapSource map, make]

/-! ## Operations go with maps of sources -/

theorem draw_mapSource (map : IsSourceMap f) (g : Generator σ) :
    (g.mapSource f).draw = mapResult f g.draw := by
  obtain ⟨mode, core, source⟩ := g
  cases mode with
  | deterministic => rfl
  | native =>
    simp only [draw, mapSource, map.draw]
    rcases EntropySource.draw source with ⟨_ | i, later⟩ <;> rfl

theorem fillFrom_mapSource (map : IsSourceMap f) (done : List Word) (n : Nat) (g : Generator σ) :
    fillFrom done n (g.mapSource f) = mapResult f (fillFrom done n g) := by
  induction n generalizing done g with
  | zero => rfl
  | succ n ih =>
    rw [fillFrom, fillFrom, draw_mapSource map]
    rcases g.draw with ⟨_ | w, later⟩
    · rfl
    · exact ih (w :: done) later

theorem fill_mapSource (map : IsSourceMap f) (n : Nat) (g : Generator σ) :
    (g.mapSource f).fill n = mapResult f (g.fill n) := by
  obtain ⟨mode, core, source⟩ := g
  cases mode with
  | deterministic => rfl
  | native => exact fillFrom_mapSource map [] n ⟨.native, core, source⟩

theorem drawUntil_mapSource (map : IsSourceMap f) (accepts : Word → Bool) (fuel : Nat) (g : Generator σ) :
    (g.mapSource f).drawUntil accepts fuel = (g.drawUntil accepts fuel).map (mapResult f) := by
  induction fuel generalizing g with
  | zero => rfl
  | succ fuel ih =>
    rw [drawUntil, drawUntil, draw_mapSource map]
    rcases g.draw with ⟨_ | w, later⟩
    · rfl
    · cases accepted : accepts w with
      | true => simp [mapResult, accepted]
      | false => simpa [mapResult, accepted] using ih later

theorem fraction_mapSource (map : IsSourceMap f) (g : Generator σ) :
    (g.mapSource f).fraction = mapResult f g.fraction := by
  rw [fraction, fraction, draw_mapSource map]
  rcases g.draw with ⟨_ | a, later⟩
  · rfl
  · simp only [mapResult, draw_mapSource map]
    rcases later.draw with ⟨_ | b, last⟩ <;> rfl

theorem perform_mapSource [Memory] (map : IsSourceMap f) (op : Operation) (g : Generator σ) :
    (g.mapSource f).perform op = (g.perform op).map (mapResult f) := by
  cases op with
  | setSeed seed =>
    rw [perform, perform]
    cases seed.asIndex with
    | error e => rfl
    | ok i =>
      simp only [setSeed_mapSource map]
      rfl
  | next =>
    rw [perform, draw_mapSource map]
    rfl
  | fill count =>
    have mode : (g.mapSource f).mode = g.mode := rfl
    rw [perform, perform, mode]
    cases fillCount g.mode count with
    | error e => rfl
    | ok n =>
      simp only [fill_mapSource map]
      rfl
  | below bound =>
    cases given : boundOf bound with
    | error e =>
      simp only [perform, given]
      rfl
    | ok b =>
      rw [perform_below given, perform_below given, drawUntil_mapSource map, Option.map_map, Option.map_map]
      rfl
  | fraction =>
    rw [perform, fraction_mapSource map]
    rfl

/-- A run over a source goes with the map to another: all answers are the same. -/
theorem performAll_mapSource [Memory] (map : IsSourceMap f) (ops : List Operation) (g : Generator σ) :
    (g.mapSource f).performAll ops = (g.performAll ops).map (mapResult f) := by
  induction ops generalizing g with
  | nil => rfl
  | cons op rest ih =>
    rw [performAll, performAll, perform_mapSource map]
    cases g.perform op with
    | none => rfl
    | some first =>
      simp only [Option.map_some, mapResult, ih, Option.map_map]
      rfl

/-- A run over a source is also one over the traced source, with the same answers. -/
theorem exists_traced_run [Memory] {source : σ} {first : Option Int} {ops : List Operation}
    {r : List (Except Failure Answer) × Generator σ} (run : (make source first).performAll ops = some r) :
    ∃ t, (make (Traced.fresh source) first).performAll ops = some t ∧ mapResult Traced.source t = r := by
  have start : make source first = (make (Traced.fresh source) first).mapSource Traced.source :=
    make_mapSource Traced.isSourceMap_source (Traced.fresh source) first
  rw [start, performAll_mapSource Traced.isSourceMap_source] at run
  exact Option.map_eq_some_iff.mp run

end Generator

end SeedStream
