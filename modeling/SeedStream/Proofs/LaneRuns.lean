import Mathlib.Data.List.FinRange
import SeedStream.Proofs.LaneRows

/-!
# Runs of lanes

Running many states side by side comes to the same as running each of them on its own: a run of lanes gives
at every step the outputs that the rows give by themselves, and leaves in every row what as many steps of it
lead to. No row has a part in what becomes of another.
-/

namespace SeedStream

namespace Lanes

variable {n : Nat}

/-! ## Rows -/

theorem row_ofRows (states : List State) (i : Fin states.length) : (ofRows states).row i = states[i] := by
  simp [row, ofRows]

theorem rows_ofRows (states : List State) : (ofRows states).rows = states := by
  rw [rows, funext (row_ofRows states)]
  exact List.map_get_finRange states

theorem rows_ofSeeds (seeds : List Int) : (ofSeeds seeds).rows = seeds.map State.ofSeed := by
  have states : (ofSeeds seeds).row = State.ofSeed ∘ seeds.get := funext (row_ofSeeds seeds)
  rw [rows, states, ← List.map_map, List.map_get_finRange]

/-! ## Steps -/

theorem row_iterate (k : Nat) (l : Lanes n) (i : Fin n) : (next^[k] l).row i = State.advance k (l.row i) := by
  induction k generalizing l with
  | zero => rfl
  | succ k ih => rw [Function.iterate_succ_apply, ih, row_next, State.advance]

theorem rows_iterate (k : Nat) (l : Lanes n) : (next^[k] l).rows = l.rows.map (State.advance k) := by
  rw [rows, rows, funext (row_iterate k l), List.map_map]
  rfl

theorem toList_output (l : Lanes n) : l.output.toList = l.rows.map State.output := by
  apply List.ext_getElem
  · simp [rows]
  · intro i inside _
    have bound : i < n := by simpa using inside
    simpa [rows] using getElem_output l i bound

/-- A run gives the outputs before each of its steps and ends where they lead. -/
theorem runFrom_eq (done : List (Vector Word n)) (steps : Nat) (l : Lanes n) :
    runFrom done steps l = (done.reverse ++ (List.range steps).map (fun j => (next^[j] l).output), next^[steps] l) := by
  induction steps generalizing done l with
  | zero => simp [runFrom]
  | succ steps ih =>
    rw [runFrom, ih, List.range_succ_eq_map, List.map_cons, List.map_map, List.reverse_cons, List.append_assoc]
    rfl

end Lanes

namespace Request

/-- A run of lanes from given rows is a run of each row. -/
theorem runLanes_eq (states : List State) (steps : Nat) :
    runLanes states steps = ((List.range steps).map fun j => states.map fun s => (State.advance j s).output,
      states.map (State.advance steps)) := by
  rw [runLanes, Lanes.run, Lanes.runFrom_eq]
  simp only [List.reverse_nil, List.nil_append, List.map_map, Lanes.rows_iterate, Lanes.rows_ofRows]
  congr 2
  funext j
  rw [Function.comp_apply, Lanes.toList_output, Lanes.rows_iterate, Lanes.rows_ofRows, List.map_map]
  rfl

/-! ## Arrays of words -/

/-- A state as a row of an array. -/
def rowOf (s : State) : Value :=
  .list (s.words.map fun w => .int w.toNat)

/-- An integer that 32 bits without a sign hold. -/
def IsUnsigned32 (i : Int) : Prop := 0 ≤ i ∧ i < 0x100000000

theorem isUnsigned32_toNat (w : Word) : IsUnsigned32 w.toNat := by
  have small := w.toNat_lt
  exact ⟨by omega, by omega⟩

theorem checkItem_int {i : Int} (fits : IsUnsigned32 i) :
    checkItem (.int i) (.number ⟨.natural, 4, false⟩) = .ok () := by
  obtain ⟨low, high⟩ := fits
  have within : (0 : Int) ≤ i ∧ i < 0 + (Nat.pow 2 (8 * 4) : Nat) := ⟨low, by rwa [Int.zero_add]⟩
  simp only [checkItem, checkNumber, Value.toInteger_int, bind, Except.bind, checkInteger]
  exact if_pos within

theorem forM_checkItem {items : List Value} {t : ItemType} (each : ∀ v ∈ items, checkItem v t = .ok ()) :
    items.forM (checkItem · t) = .ok () := by
  induction items with
  | nil => rfl
  | cons v rest ih =>
    obtain ⟨first, others⟩ := List.forall_mem_cons.mp each
    rw [List.forM, first]
    exact ih others

theorem leavesOfItems_rows (states : List State) :
    Value.leavesOfItems (states.map rowOf) = (states.flatMap State.words).map fun w => .int w.toNat := by
  induction states with
  | nil => rfl
  | cons s rest ih =>
    rw [List.map_cons, Value.leavesOfItems, ih, List.flatMap_cons, List.map_append]
    rfl

theorem depthOfItems_rows (states : List State) : Value.depthOfItems (states.map rowOf) ≤ 1 := by
  induction states with
  | nil => exact Nat.zero_le 1
  | cons s rest ih =>
    rw [List.map_cons, Value.depthOfItems]
    exact Nat.max_le.mpr ⟨Nat.le_refl 1, ih⟩

theorem row_rows (states : List State) :
    (Value.list (states.map rowOf)).row = .ok ((states.flatMap State.words).map fun w => .int w.toNat) := by
  have flat := depthOfItems_rows states
  rw [Value.row, Value.depth, Value.leaves, leavesOfItems_rows, if_neg]
  rw [maxDimensions]
  omega

theorem shapeOf_rows {states : List State} (nonempty : states ≠ []) :
    shapeOf maxDimensions (.list (states.map rowOf)) = [states.length, 4] := by
  obtain ⟨s, rest, rfl⟩ := List.exists_cons_of_ne_nil nonempty
  simp [shapeOf, maxDimensions, rowOf, State.words]

theorem statesOf_words (states : List State) : statesOf (states.flatMap State.words) = states := by
  induction states with
  | nil => rfl
  | cons s rest ih =>
    rw [List.flatMap_cons]
    exact congrArg (s :: ·) ih

/-- An array of rows of four words is taken as the states that have these words. -/
theorem laneStates_rows {states : List State} (nonempty : states ≠ []) :
    laneStates (.text "uint32") (.list (states.map rowOf)) .null = .ok states := by
  have itemType : itemType? (.text "uint32") = .ok (some (.number ⟨.natural, 4, false⟩)) := rfl
  have checked : ((states.flatMap State.words).map fun w => Value.int w.toNat).forM
      (checkItem · (.number ⟨.natural, 4, false⟩)) = .ok () := by
    refine forM_checkItem fun v member => ?_
    obtain ⟨w, -, rfl⟩ := List.mem_map.mp member
    exact checkItem_int (isUnsigned32_toNat w)
  have taken : ((states.flatMap State.words).map fun w => Value.int w.toNat).mapM Value.asWordNumber =
      .ok ((states.flatMap State.words).map fun w => (w.toNat : Int)) :=
    Value.mapM_map_eq_ok fun w _ => Value.asWordNumber_int (isUnsigned32_toNat w)
  have back : ((states.flatMap State.words).map fun w => (w.toNat : Int)).map Word.ofInt =
      states.flatMap State.words := by
    rw [List.map_map, show Word.ofInt ∘ (fun w : Word => (w.toNat : Int)) = id from funext Word.ofInt_toNat, List.map_id]
  simp only [laneStates, itemType, row_rows, bind, Except.bind, Option.forM, checked, Shape.ofValue,
    shapeOf_rows nonempty, Option.map_some, isWordType, decide_true, taken, back, statesOf_words]
  rfl

theorem seededRows_ints {seeds : List Int} (fit : ∀ seed ∈ seeds, IsSigned64 seed) :
    seededRows (.list (seeds.map .int)) = .ok (seeds.map State.ofSeed) := by
  rw [seededRows, seedRow_ints fit, ← Lanes.rows_ofSeeds]
  rfl

end Request

/-- Lanes do to every row what is done to a state on its own. Seeds of 64 bits give the rows that each seed
    expands to. An array of rows of four words is taken as it is, and any number of steps of any rows gives
    at each step, row by row, the output of as many steps of that row alone, and leaves the state that they
    lead to. -/
theorem lanes_match_rows :
    (∀ seeds : List Int, (∀ seed ∈ seeds, IsSigned64 seed) →
      Request.seededRows (.list (seeds.map .int)) = .ok (seeds.map State.ofSeed)) ∧
      (∀ states : List State, states ≠ [] →
        Request.laneStates (.text "uint32") (.list (states.map Request.rowOf)) .null = .ok states) ∧
      ∀ (states : List State) (steps : Nat), Request.runLanes states steps =
        ((List.range steps).map fun j => states.map fun s => (State.advance j s).step.1,
          states.map (State.advance steps)) :=
  ⟨fun _ fit => Request.seededRows_ints fit, fun _ nonempty => Request.laneStates_rows nonempty, Request.runLanes_eq⟩

/-- Seeds of both signs beyond 32 bits, and an array with a zero row and one of full words. -/
theorem lanes_match_rows_ends :
    (∀ seed ∈ [-0x8000000000000000, -1, 0x100000007], IsSigned64 seed) ∧
      Request.seededRows (.list ([-0x8000000000000000, -1, 0x100000007].map .int)) =
        .ok [State.ofSeed 0, State.ofSeed 0xffffffff, State.ofSeed 7] ∧
      Request.laneStates (.text "uint32")
        (.list ([State.zero, ⟨0xffffffff, 0xffffffff, 0xffffffff, 0xffffffff⟩].map Request.rowOf)) .null =
          .ok [State.zero, ⟨0xffffffff, 0xffffffff, 0xffffffff, 0xffffffff⟩] := by
  have fit : ∀ seed ∈ [-0x8000000000000000, -1, 0x100000007], IsSigned64 seed := by
    simp [IsSigned64]
  exact ⟨fit, lanes_match_rows.1 _ fit, lanes_match_rows.2.1 _ (List.cons_ne_nil _ _)⟩

end SeedStream
