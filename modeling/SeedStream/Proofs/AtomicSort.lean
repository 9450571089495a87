import SeedStream.Proofs.Results
import SeedStream.Proofs.StableSort
import SeedStream.Records.InPlace

/-!
# Sorting in place changes all or nothing

However the records are put in order, the buffer is as it was when sorting in place fails, at whichever question
the comparison refuses to answer. With insertion and a comparison that remembers nothing, sorting in place is
sorting as a function of the buffer (`sortInPlace_insertion`).
-/

namespace SeedStream.Records

/-! ## Following plans -/

namespace Plan

variable {α β σ : Type}

/-- The questions that are asked when a plan is followed, each with what the comparison remembered at it. -/
def questions (compare : Comparer σ) : Plan α → σ → List (List UInt8 × List UInt8 × σ)
  | done _, _ => []
  | ask left right next, memory =>
    (left, right, memory) ::
      match compare left right memory with
      | (.error _, _) => []
      | (.ok sign, memory) => questions compare (next sign) memory

/-- A question that the comparison refuses to answer. -/
def Refuses (compare : Comparer σ) (question : List UInt8 × List UInt8 × σ) (e : Failure) : Prop :=
  (compare question.1 question.2.1 question.2.2).1 = .error e

theorem run_andThen (compare : Comparer σ) (more : α → Plan β) (plan : Plan α) (memory : σ) :
    (plan.andThen more).run compare memory =
      match plan.run compare memory with
      | (.error e, memory) => (.error e, memory)
      | (.ok a, memory) => (more a).run compare memory := by
  induction plan generalizing memory with
  | done a => rfl
  | ask left right next ih =>
    rw [andThen, run, run]
    rcases compare left right memory with ⟨_ | sign, after⟩
    · rfl
    · exact ih sign after

/-- Following a plan fails exactly by a failure that a question was refused with. -/
theorem run_eq_error_iff (compare : Comparer σ) (plan : Plan α) (memory : σ) (e : Failure) :
    (plan.run compare memory).1 = .error e ↔ ∃ q ∈ plan.questions compare memory, Refuses compare q e := by
  induction plan generalizing memory with
  | done a => simp [run, questions]
  | ask left right next ih =>
    rw [run, questions]
    rcases answer : compare left right memory with ⟨refusal | sign, after⟩
    · simp [Refuses, answer]
    · simp [Refuses, answer, ih]

end Plan

/-! ## Insertion -/

theorem run_inserting (compare : Comparison) (r : List UInt8) (before sorted : List (List UInt8)) :
    (inserting r before sorted).run compare.forgetful () =
      ((insert compare r sorted).map fun out => before.reverse ++ out, ()) := by
  induction sorted generalizing before with
  | nil => rfl
  | cons s rest ih =>
    rw [inserting, Plan.run, insert, Comparison.forgetful]
    cases compare r s with
    | error e => rfl
    | ok sign =>
      by_cases less : sign < 0
      · simp [less, Plan.run, Except.map, bind, Except.bind]
      · simp only [less, if_false, bind, Except.bind]
        rw [ih]
        cases insert compare r rest <;> simp [Except.map]

theorem run_insertingAll (compare : Comparison) (records sorted : List (List UInt8)) :
    (insertingAll sorted records).run compare.forgetful () = (sortOnto compare sorted records, ()) := by
  induction records generalizing sorted with
  | nil => rfl
  | cons r rest ih =>
    rw [insertingAll, Plan.run_andThen, run_inserting, sortOnto]
    cases insert compare r sorted with
    | error e => rfl
    | ok next => exact ih next

theorem run_insertion (compare : Comparison) (records : List (List UInt8)) :
    (insertion records).run compare.forgetful () = (sorted compare records, ()) :=
  run_insertingAll compare records []

/-! ## Sorting as a function of the buffer -/

theorem recordsOf_of_integer (length : Nat) {count size : Value} {n k : Int} (counted : count.integer? = some n)
    (sized : size.integer? = some k) :
    recordsOf length count size =
      if n < 0 ∨ k ≤ 0 then .error (.value (.recordLayout count.plain size.plain))
      else if (length : Int) < n * k then .error (.value (.recordSpan count.plain size.plain length))
      else .ok (n.toNat, k.toNat) := by
  rw [recordsOf, checkLayout_of_integer counted sized]
  by_cases refused : n < 0 ∨ k ≤ 0
  · rw [if_pos refused, if_pos refused]
    rfl
  · rw [if_neg refused, if_neg refused]
    simp [counted, sized, bind, Except.bind]

/-- Sorting a buffer as a function of it, with its layout read first. -/
theorem sortValues_eq (access : Access) (bytes : List UInt8) (count size : Value) (compare : Comparison) :
    sortValues access bytes count size compare =
      match recordsOf bytes.length count size with
      | .error e => .error e
      | .ok (n, k) =>
        if n < 2 then .ok bytes
        else do
          let records ← sorted compare (split k n bytes)
          access.check
          return records.flatten ++ bytes.drop (n * k) := by
  by_cases integers : ∃ n k, count.integer? = some n ∧ size.integer? = some k
  · obtain ⟨n, k, counted, sized⟩ := integers
    rw [sortValues, recordsOf_of_integer _ counted sized, checkLayout_of_integer counted sized]
    by_cases refused : n < 0 ∨ k ≤ 0
    · rw [if_pos refused, if_pos refused]
      rfl
    · rw [if_neg refused, if_neg refused]
      simp only [bind, Except.bind, counted, sized]
      by_cases long : (bytes.length : Int) < n * k
      · rw [if_pos long, if_pos long]
      · have layout : layoutFault? bytes.length n k = none := by
          rw [layoutFault?, if_neg refused, if_neg long]
        have product : (n * k).toNat = n.toNat * k.toNat := Int.toNat_mul (by omega) (by omega)
        have few : n < 2 ↔ n.toNat < 2 := by omega
        simp only [long, if_false, sort, layout, few, product]
        rfl
  · rw [sortValues, recordsOf]
    cases checkLayout count size with
    | error e => rfl
    | ok done =>
      cases counted : count.integer? with
      | none => cases realLayout bytes.length count size <;> rfl
      | some n =>
        cases sized : size.integer? with
        | none => cases realLayout bytes.length count size <;> rfl
        | some k => exact absurd ⟨n, k, counted, sized⟩ integers

/-- Bytes in the place of those at the start of a view are in that place of the buffer. -/
theorem withView_overwrite (bytes : List UInt8) (start stop : Nat) {data : List UInt8}
    (fits : data.length ≤ ((bytes.take stop).drop start).length) :
    withView bytes start stop (data ++ ((bytes.take stop).drop start).drop data.length) =
      bytes.take start ++ data ++ bytes.drop (start + data.length) := by
  rw [List.length_drop] at fits
  by_cases inside : start + data.length ≤ (bytes.take stop).length
  · have order : start ≤ stop := by
      rw [List.length_take] at inside
      omega
    have rest : bytes.drop (start + data.length) = (bytes.take stop).drop (start + data.length) ++ bytes.drop stop := by
      rw [← List.drop_append_of_le_length inside, List.take_append_drop]
    rw [withView, Nat.min_eq_left order, List.drop_drop, rest]
    simp
  · -- The view is empty: it lies behind the bytes or ends before it starts.
    have nothing : data = [] := by
      rw [← List.length_eq_zero_iff]
      omega
    subst nothing
    rw [List.length_take] at inside
    have empty : (bytes.take stop).drop start = [] := by
      rw [List.drop_eq_nil_iff, List.length_take]
      simp only [List.length_nil] at inside
      omega
    simp only [withView, empty, List.length_nil, List.drop_nil, List.append_nil, Nat.add_zero, List.take_append_drop]
    by_cases order : stop ≤ start
    · rw [Nat.min_eq_right order, List.take_append_drop]
    · simp only [List.length_nil] at inside
      rw [List.drop_eq_nil_of_le (by omega), List.append_nil, List.take_of_length_le (by omega)]

/-- A layout that is let through lies within the buffer. -/
theorem fits_of_recordsOf {length n k : Nat} {count size : Value} (layout : recordsOf length count size = .ok (n, k)) :
    n * k ≤ length := by
  rw [recordsOf] at layout
  obtain ⟨_, checked, found⟩ := bind_eq_ok_iff.mp layout
  split at found
  case h_1 i j counted sized =>
    rw [checkLayout_of_integer counted sized] at checked
    split at checked
    · cases checked
    · split at found
      · cases found
      · cases found
        have product : ((i.toNat * j.toNat : Nat) : Int) = i * j := by
          rw [← Int.toNat_mul (by omega) (by omega), Int.toNat_of_nonneg (Int.mul_nonneg (by omega) (by omega))]
        omega
  case h_2 =>
    obtain ⟨_, -, same⟩ := map_eq_ok_iff.mp found
    cases same
    omega

theorem perm_of_insert {compare : Comparison} {r : List UInt8} {sorted out : List (List UInt8)}
    (inserted : insert compare r sorted = .ok out) : out.Perm (r :: sorted) := by
  induction sorted generalizing out with
  | nil =>
    cases inserted
    exact .refl _
  | cons s rest ih =>
    rw [insert] at inserted
    obtain ⟨sign, -, placed⟩ := bind_eq_ok_iff.mp inserted
    split at placed
    · cases placed
      exact .refl _
    · obtain ⟨later, more, same⟩ := bind_eq_ok_iff.mp placed
      cases same
      exact ((ih more).cons s).trans (.swap r s rest)

theorem perm_of_sortOnto {compare : Comparison} {records sorted out : List (List UInt8)}
    (done : sortOnto compare sorted records = .ok out) : out.Perm (records ++ sorted) := by
  induction records generalizing sorted with
  | nil =>
    cases done
    exact .refl _
  | cons r rest ih =>
    rw [sortOnto] at done
    obtain ⟨next, inserted, more⟩ := bind_eq_ok_iff.mp done
    exact (ih more).trans (((perm_of_insert inserted).append_left rest).trans List.perm_middle)

theorem length_flatten_of_sorted {compare : Comparison} {size count : Nat} {bytes : List UInt8}
    (fits : count * size ≤ bytes.length) {records : List (List UInt8)}
    (done : sorted compare (split size count bytes) = .ok records) : records.flatten.length = count * size := by
  have perm := perm_of_sortOnto done
  rw [List.append_nil] at perm
  rw [perm.flatten.length_eq, flatten_split, List.length_take, Nat.min_eq_left fits]

/-- Sorting in place by insertion, with a comparison that remembers nothing, leaves in the buffer what sorting the
    buffer gives, and fails as this does. -/
theorem sortInPlace_insertion (access : Access) (bytes : List UInt8) (start stop : Option Int) (count size : Value)
    (compare : Comparison) :
    sortInPlace insertion (.between access bytes start stop) count size compare.forgetful ⟨bytes, ()⟩ =
      match sortViewValues access bytes start stop count size compare with
      | .error e => (.error e, ⟨bytes, ()⟩)
      | .ok after => (.ok (), ⟨after, ()⟩) := by
  rw [sortInPlace, sortViewValues]
  dsimp only [View.between, View.read]
  generalize (start.map (boundary bytes.length)).getD 0 = first
  generalize (stop.map (boundary bytes.length)).getD bytes.length = last
  have same : withView bytes first last ((bytes.take last).drop first) = bytes := by
    have kept := @withView_overwrite bytes first last [] (Nat.zero_le _)
    simpa using kept
  rw [sortValues_eq]
  cases layout : recordsOf ((bytes.take last).drop first).length count size with
  | error e => rfl
  | ok shape =>
    obtain ⟨n, k⟩ := shape
    by_cases few : n < 2
    · simp [few, Except.map, same]
    · simp only [few, if_false, reorder, View.read, run_insertion]
      cases inOrder : sorted compare (split k n ((bytes.take last).drop first)) with
      | error e => rfl
      | ok records =>
        have length := length_flatten_of_sorted (fits_of_recordsOf layout) inOrder
        have written := withView_overwrite bytes first last (length ▸ fits_of_recordsOf layout)
        rw [length] at written
        cases access with
        | writable =>
          simp only [View.write, Access.check, Except.map, bind, Except.bind, pure, Except.pure, length, written]
        | fixed | readOnly => rfl

/-! ## All or nothing -/

section

variable {σ : Type} (method : Method) (view : View) (n k : Nat) (compare : Comparer σ) (w : World σ)

/-- The questions that sorting so many records of a view asks. -/
def asked : List (List UInt8 × List UInt8 × σ) :=
  (method (split k n (view.read w.bytes))).questions compare w.memory

theorem bytes_of_reorder_error {e : Failure} (failed : (reorder method view n k compare w).1 = .error e) :
    (reorder method view n k compare w).2.bytes = w.bytes := by
  unfold reorder at failed ⊢
  rcases followed : (method (split k n (view.read w.bytes))).run compare w.memory with ⟨_ | records, memory⟩
  · rfl
  · cases written : view.write records.flatten w.bytes with
    | error e => simp only [written]
    | ok bytes => simp [followed, written] at failed

/-- Putting records in order fails by a question that is refused or, if none is, for want of leave to write. -/
theorem reorder_eq_error_iff (e : Failure) :
    (reorder method view n k compare w).1 = .error e ↔
      (∃ q ∈ asked method view n k compare w, Plan.Refuses compare q e) ∨
        (∀ q ∈ asked method view n k compare w, ∀ e, ¬ Plan.Refuses compare q e) ∧ view.access.check = .error e := by
  have refused := Plan.run_eq_error_iff compare (method (split k n (view.read w.bytes))) w.memory
  rw [asked, reorder]
  rcases followed : (method (split k n (view.read w.bytes))).run compare w.memory with ⟨refusal | records, memory⟩
  · simp only [followed, Except.error.injEq] at refused ⊢
    rw [← refused]
    obtain ⟨q, member, refuses⟩ := (refused refusal).mp rfl
    constructor
    · exact .inl
    · rintro (same | ⟨unrefused, -⟩)
      · exact same
      · exact absurd refuses (unrefused q member refusal)
  · simp only [followed] at refused
    have unrefused : ∀ q ∈ (method (split k n (view.read w.bytes))).questions compare w.memory,
        ∀ e, ¬ Plan.Refuses compare q e := by
      intro q member e refuses
      cases (refused e).mpr ⟨q, member, refuses⟩
    have written : view.write records.flatten w.bytes = view.access.check.map fun _ =>
        w.bytes.take view.start ++ records.flatten ++ w.bytes.drop (view.start + records.flatten.length) := rfl
    rw [← refused]
    cases leave : view.access.check with
    | error f => simpa [written, leave, Except.map] using fun _ => unrefused
    | ok done => simp [written, leave, Except.map]

theorem bytes_of_sortInPlace_error {count size : Value} {e : Failure}
    (failed : (sortInPlace method view count size compare w).1 = .error e) :
    (sortInPlace method view count size compare w).2.bytes = w.bytes := by
  unfold sortInPlace at failed ⊢
  cases layout : recordsOf (view.read w.bytes).length count size with
  | error e => rfl
  | ok shape =>
    obtain ⟨n, k⟩ := shape
    by_cases few : n < 2
    · simp [layout, few] at failed
    · simp only [layout, few, if_false] at failed ⊢
      exact bytes_of_reorder_error method view n k compare w failed

/-- Sorting in place when its caller gives integers: the layout is judged, then whether it fits. -/
theorem sortInPlace_int (count size : Int) :
    sortInPlace method view (.int count) (.int size) compare w =
      if count < 0 ∨ size ≤ 0 then
        (.error (.value (.recordLayout (Numeral.signed count) (Numeral.signed size))), w)
      else if ((view.read w.bytes).length : Int) < count * size then
        (.error (.value (.recordSpan (Numeral.signed count) (Numeral.signed size) (view.read w.bytes).length)), w)
      else if count < 2 then (.ok (), w)
      else reorder method view count.toNat size.toNat compare w := by
  have layout := @recordsOf_of_integer (view.read w.bytes).length (.int count) (.int size) count size rfl rfl
  rw [sortInPlace, layout]
  by_cases refused : count < 0 ∨ size ≤ 0
  · rw [if_pos refused, if_pos refused]
    rfl
  · rw [if_neg refused, if_neg refused]
    by_cases long : ((view.read w.bytes).length : Int) < count * size
    · rw [if_pos long, if_pos long]
      rfl
    · have few : count.toNat < 2 ↔ count < 2 := by omega
      rw [if_neg long, if_neg long]
      simp only [few]

end

/-- Sorting in place, by any method, over any part of a buffer that may be written to or not, with any comparison,
    which may refuse any question. When it fails, the whole buffer is as it was. With integers for the number and the
    size of the records, it fails exactly if there are fewer than none, they have no bytes, they do not fit, or there
    are two or more of them and a question is refused or there is no leave to write; the failure is that of the
    first question that is refused, if one is. Fewer than two records that fit are sorted without a question, as
    the comparison remembers what it did before, and without leave to write. -/
theorem sortInPlace_all_or_nothing {σ : Type} (method : Method) (view : View) (compare : Comparer σ) (w : World σ) :
    (∀ count size e after, sortInPlace method view count size compare w = (.error e, after) → after.bytes = w.bytes) ∧
      (∀ (count size : Int) (e : Failure), (sortInPlace method view (.int count) (.int size) compare w).1 = .error e ↔
        (count < 0 ∨ size ≤ 0) ∧ e = .value (.recordLayout (Numeral.signed count) (Numeral.signed size)) ∨
        0 ≤ count ∧ 0 < size ∧ ((view.read w.bytes).length : Int) < count * size ∧
          e = .value (.recordSpan (Numeral.signed count) (Numeral.signed size) (view.read w.bytes).length) ∨
        2 ≤ count ∧ 0 < size ∧ count * size ≤ (view.read w.bytes).length ∧
          ((∃ q ∈ asked method view count.toNat size.toNat compare w, Plan.Refuses compare q e) ∨
            (∀ q ∈ asked method view count.toNat size.toNat compare w, ∀ e, ¬ Plan.Refuses compare q e) ∧
              view.access.check = .error e)) ∧
      ∀ count size : Int, 0 ≤ count → count < 2 → 0 < size → count * size ≤ (view.read w.bytes).length →
        sortInPlace method view (.int count) (.int size) compare w = (.ok (), w) := by
  refine ⟨?_, ?_, ?_⟩
  · intro count size e after failed
    have kept := bytes_of_sortInPlace_error method view compare w (by rw [failed])
    rwa [failed] at kept
  · intro count size e
    rw [sortInPlace_int]
    by_cases refused : count < 0 ∨ size ≤ 0
    · rw [if_pos refused]
      constructor
      · intro same
        cases same
        exact .inl ⟨refused, rfl⟩
      · rintro (⟨-, rfl⟩ | ⟨_, _, -⟩ | ⟨_, _, -⟩)
        · rfl
        · omega
        · omega
    · rw [if_neg refused]
      by_cases long : ((view.read w.bytes).length : Int) < count * size
      · rw [if_pos long]
        constructor
        · intro same
          cases same
          exact .inr (.inl ⟨by omega, by omega, long, rfl⟩)
        · rintro (⟨_, -⟩ | ⟨-, -, -, rfl⟩ | ⟨_, _, _, -⟩)
          · contradiction
          · rfl
          · omega
      · rw [if_neg long]
        by_cases few : count < 2
        · rw [if_pos few]
          constructor
          · nofun
          · rintro (⟨_, -⟩ | ⟨_, _, _, -⟩ | ⟨_, -⟩)
            · contradiction
            · contradiction
            · omega
        · rw [if_neg few, reorder_eq_error_iff]
          constructor
          · intro failed
            exact .inr (.inr ⟨by omega, by omega, by omega, failed⟩)
          · rintro (⟨_, -⟩ | ⟨_, _, _, -⟩ | ⟨-, -, -, failed⟩)
            · contradiction
            · contradiction
            · exact failed
  · intro count size low few proper fits
    rw [sortInPlace_int, if_neg (by omega), if_neg (by omega), if_pos few]

/-- A comparison of first bytes that counts its questions and refuses the second, when three records are sorted that
    may be written to; one record that may not; and two, when the count is beyond that question. -/
theorem sortInPlace_all_or_nothing_second_question :
    let compare : Comparer Nat := fun left right count =>
      if count = 1 then (.error (.comparison "refused"), 2)
      else (.ok ((left.headD 0).toNat - (right.headD 0).toNat), count + 1)
    (∃ after, sortInPlace insertion ⟨.writable, 0, 4⟩ (.int 3) (.int 1) compare ⟨[3, 1, 2, 9], 0⟩ =
        (.error (.comparison "refused"), after) ∧ after.memory = 2 ∧ after.bytes = [3, 1, 2, 9]) ∧
      sortInPlace insertion ⟨.readOnly, 0, 4⟩ (.int 1) (.int 4) compare ⟨[3, 1, 2, 9], 1⟩ =
        (.ok (), ⟨[3, 1, 2, 9], 1⟩) ∧
      (sortInPlace insertion ⟨.readOnly, 0, 4⟩ (.int 2) (.int 2) compare ⟨[3, 1, 2, 9], 2⟩).1 =
        .error (.kind .readOnlyView) := by
  intro compare
  refine ⟨⟨_, rfl, rfl, ?_⟩, ?_, ?_⟩
  · exact (sortInPlace_all_or_nothing insertion ⟨.writable, 0, 4⟩ compare ⟨[3, 1, 2, 9], 0⟩).1 (.int 3) (.int 1) _ _ rfl
  · exact (sortInPlace_all_or_nothing insertion ⟨.readOnly, 0, 4⟩ compare ⟨[3, 1, 2, 9], 1⟩).2.2 1 4 (by decide)
      (by decide) (by decide) (by decide)
  · have answered : ∀ q ∈ asked insertion ⟨.readOnly, 0, 4⟩ 2 2 compare ⟨[3, 1, 2, 9], 2⟩,
        ∀ e, ¬ Plan.Refuses compare q e := by
      have questions : asked insertion ⟨.readOnly, 0, 4⟩ 2 2 compare ⟨[3, 1, 2, 9], 2⟩ = [([2, 9], [3, 1], 2)] := rfl
      rw [questions]
      simp [Plan.Refuses, compare]
    have fails := (sortInPlace_all_or_nothing insertion ⟨.readOnly, 0, 4⟩ compare ⟨[3, 1, 2, 9], 2⟩).2.1 2 2
      (.kind .readOnlyView)
    exact fails.mpr (.inr (.inr ⟨by decide, by decide, by decide, .inr ⟨answered, rfl⟩⟩))

end SeedStream.Records
