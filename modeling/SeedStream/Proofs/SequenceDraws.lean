import SeedStream.Entropy.Sequence

/-!
# Draws of a fixed sequence

What a fixed sequence gives depends on the number of draws since it was last seeded anew and on nothing
else (`Sequence.nth`). Where it stands tells that number: exactly while its words last, and in a circle if
they start over (`Sequence.StandsAt`).
-/

namespace SeedStream

namespace Sequence

/-- The place of the next word in the circle of words. -/
def place (s : Sequence) : Nat :=
  if s.position < s.values.length then s.position else 0

/-- What the draw of a number gives, counted from zero since the sequence was last seeded anew. -/
def nth (s : Sequence) (k : Nat) : Except Failure Int :=
  match s.values[if s.cycle then k % s.values.length else k]? with
  | some w => .ok w.toNat
  | none => .error (.entropy .exhausted)

/-- The sequence stands where `k` draws since it was last seeded anew lead to. -/
def StandsAt (k : Nat) (s : Sequence) : Prop :=
  if s.cycle then s.place = k % s.values.length else s.position = min k s.values.length

theorem length_pos (s : Sequence) : 0 < s.values.length :=
  List.length_pos_iff.mpr s.nonempty

theorem place_lt (s : Sequence) : s.place < s.values.length := by
  rw [place]
  split
  · assumption
  · exact s.length_pos

theorem nth_congr {s t : Sequence} (values : s.values = t.values) (cycle : s.cycle = t.cycle) (k : Nat) :
    s.nth k = t.nth k := by
  rw [nth, nth, values, cycle]

theorem nth_draw (s : Sequence) (k : Nat) : s.draw.2.nth k = s.nth k :=
  nth_congr s.draw_keeps.1 s.draw_keeps.2.1 k

theorem nth_of_cycle {s : Sequence} (cycle : s.cycle = true) {k : Nat} {w : Word}
    (found : s.values[k % s.values.length]? = some w) : s.nth k = .ok w.toNat := by
  rw [nth, if_pos cycle, found]

/-- The draw at the place of a circle gives its word and moves on by one. -/
theorem draw_of_cycle {s : Sequence} (cycle : s.cycle = true) :
    s.draw.1 = s.nth s.place ∧ s.draw.2.place = (s.place + 1) % s.values.length := by
  have wraps (p : Nat) (short : p < s.values.length) :
      (if p + 1 < s.values.length then p + 1 else 0) = (p + 1) % s.values.length := by
    split
    · exact (Nat.mod_eq_of_lt (by assumption)).symm
    · rw [show p + 1 = s.values.length by omega, Nat.mod_self]
  have placed : s.place % s.values.length = s.place := Nat.mod_eq_of_lt s.place_lt
  by_cases inside : s.position < s.values.length
  · have here : s.place = s.position := if_pos inside
    have found := List.getElem?_eq_getElem inside
    rw [nth_of_cycle cycle (by rw [placed, here, found]), here, draw, found]
    exact ⟨rfl, wraps s.position inside⟩
  · have here : s.place = 0 := if_neg inside
    have first : s.values[0]? = some (s.values.head s.nonempty) := by
      rw [← List.head?_eq_getElem?, List.head?_eq_some_head]
    rw [nth_of_cycle cycle (by rw [placed, here, first]), here, draw,
      List.getElem?_eq_none (Nat.le_of_not_lt inside)]
    simp only [cycle, if_true]
    exact ⟨trivial, wraps 0 s.length_pos⟩

/-- Words that do not start over are used up once they were all given, and stay so. -/
theorem draw_of_not_cycle {s : Sequence} (ends : s.cycle = false) {k : Nat}
    (stands : s.position = min k s.values.length) :
    s.draw.1 = s.nth k ∧ s.draw.2.position = min (k + 1) s.values.length := by
  rw [nth, ends, if_neg Bool.false_ne_true, draw, stands]
  by_cases inside : k < s.values.length
  · rw [Nat.min_eq_left (Nat.le_of_lt inside), List.getElem?_eq_getElem inside]
    exact ⟨rfl, (Nat.min_eq_left inside).symm⟩
  · have beyond : s.values.length ≤ k := Nat.le_of_not_lt inside
    rw [Nat.min_eq_right beyond, List.getElem?_eq_none (Nat.le_refl _), List.getElem?_eq_none beyond]
    simp only [ends, Bool.false_eq_true, if_false]
    exact ⟨trivial, by omega⟩

/-- A draw gives what its number says, and the sequence then stands at the next. -/
theorem draw_of_standsAt {k : Nat} {s : Sequence} (stands : s.StandsAt k) :
    s.draw.1 = s.nth k ∧ s.draw.2.StandsAt (k + 1) := by
  obtain ⟨values, cycle, -⟩ := s.draw_keeps
  rw [StandsAt] at stands
  rw [StandsAt, values, cycle]
  cases circle : s.cycle with
  | true =>
    rw [if_pos circle] at stands
    obtain ⟨given, moved⟩ := draw_of_cycle circle
    have found := List.getElem?_eq_getElem (stands ▸ s.place_lt)
    rw [given, moved, stands, nth_of_cycle circle found, if_pos rfl, Nat.mod_add_mod]
    exact ⟨nth_of_cycle circle (by rw [Nat.mod_mod, found]), rfl⟩
  | false =>
    rw [circle, if_neg Bool.false_ne_true] at stands
    rw [if_neg Bool.false_ne_true]
    exact draw_of_not_cycle circle stands

theorem reseed_standsAt (s : Sequence) : s.reseed.StandsAt 0 := by
  rw [StandsAt, place, reseed]
  simp [s.length_pos]

theorem standsAt_place {s : Sequence} (cycle : s.cycle = true) : s.StandsAt s.place := by
  rw [StandsAt, if_pos cycle, Nat.mod_eq_of_lt s.place_lt]

end Sequence

end SeedStream
