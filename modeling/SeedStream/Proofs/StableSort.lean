import SeedStream.Records

/-!
# Sorting records is stable

Under a comparison that is a total preorder, putting records in order moves them without changing the order of
those that compare as equal. This determines the result, so that sorting again changes nothing. In a buffer,
no byte behind the records moves, and for a view no byte outside it.
-/

namespace SeedStream.Records

/-! ## Comparisons and orders -/

/-- The comparison is a total preorder on records of a size, with the sign that it gives for each two. -/
structure Orders (compare : Comparison) (size : Nat) (sign : List UInt8 → List UInt8 → Int) : Prop where
  gives : ∀ a b, a.length = size → b.length = size → compare a b = .ok (sign a b)
  turns : ∀ a b, a.length = size → b.length = size → (sign a b < 0 ↔ 0 < sign b a)
  trans : ∀ a b c, a.length = size → b.length = size → c.length = size →
    sign a b ≤ 0 → sign b c ≤ 0 → sign a c ≤ 0

/-- The records of a list in order, where those that compare as equal have kept their order. -/
structure StableSort (sign : List UInt8 → List UInt8 → Int) (size : Nat) (records out : List (List UInt8)) :
    Prop where
  perm : out.Perm records
  ordered : out.Pairwise fun a b => sign a b ≤ 0
  stable : ∀ k, k.length = size → out.filter (sign k · = 0) = records.filter (sign k · = 0)

section

variable {compare : Comparison} {size : Nat} {sign : List UInt8 → List UInt8 → Int}

namespace Orders

variable {a b : List UInt8} (order : Orders compare size sign) (ha : a.length = size) (hb : b.length = size)
include order ha hb

theorem not_neg_iff : ¬ sign a b < 0 ↔ sign b a ≤ 0 := by
  rw [order.turns a b ha hb]
  omega

theorem eq_zero_iff : sign a b = 0 ↔ sign a b ≤ 0 ∧ sign b a ≤ 0 := by
  rw [← order.not_neg_iff ha hb]
  omega

end Orders

theorem Orders.self_eq_zero {a : List UInt8} (order : Orders compare size sign) (ha : a.length = size) :
    sign a a = 0 := by
  have turned := order.turns a a ha ha
  omega

theorem Orders.head_le {s t : List UInt8} {rest : List (List UInt8)} (order : Orders compare size sign)
    (ht : t.length = size) (ordered : (s :: rest).Pairwise fun a b => sign a b ≤ 0) (member : t ∈ s :: rest) :
    sign s t ≤ 0 := by
  rcases List.mem_cons.mp member with rfl | later
  · exact Int.le_of_eq (order.self_eq_zero ht)
  · exact (List.pairwise_cons.mp ordered).1 t later

namespace StableSort

variable {records out tail : List (List UInt8)}

theorem sizes (sort : StableSort sign size records out) (lengths : ∀ r ∈ records, r.length = size) :
    ∀ r ∈ out, r.length = size := by
  intro r member
  exact lengths r (sort.perm.mem_iff.mp member)

theorem of_ordered (ordered : records.Pairwise fun a b => sign a b ≤ 0) :
    StableSort sign size records records :=
  ⟨.refl records, ordered, fun _ _ => rfl⟩

/-- What stands behind the records may be sorted in after them. -/
theorem append {base sorted : List (List UInt8)} (first : StableSort sign size base sorted)
    (second : StableSort sign size (sorted ++ tail) out) : StableSort sign size (base ++ tail) out where
  perm := second.perm.trans (first.perm.append_right tail)
  ordered := second.ordered
  stable := by
    intro k hk
    rw [second.stable k hk, List.filter_append, List.filter_append, first.stable k hk]

end StableSort

/-- Lists in order are one list if they have the same records and the same of them compare as equal to a
    record, in the same order: the first records compare as equal, and are the first that do so. -/
theorem eq_of_ordered (order : Orders compare size sign) {xs ys : List (List UInt8)}
    (lengths : ∀ r ∈ xs, r.length = size) (perm : xs.Perm ys)
    (first : xs.Pairwise fun a b => sign a b ≤ 0) (second : ys.Pairwise fun a b => sign a b ≤ 0)
    (same : ∀ k, k.length = size → xs.filter (sign k · = 0) = ys.filter (sign k · = 0)) : xs = ys := by
  induction xs generalizing ys with
  | nil => exact perm.nil_eq
  | cons x xs ih =>
    cases ys with
    | nil => exact absurd perm.symm.nil_eq.symm (List.cons_ne_nil x xs)
    | cons y ys =>
      have hx : x.length = size := lengths x (by simp)
      have hy : y.length = size := lengths y (perm.mem_iff.mpr (by simp))
      have below : sign x y ≤ 0 := order.head_le hy first (perm.mem_iff.mpr List.mem_cons_self)
      have above : sign y x ≤ 0 := order.head_le hx second (perm.mem_iff.mp List.mem_cons_self)
      have equal : x = y := by
        have heads := same x hx
        have reads : sign x y = 0 := (order.eq_zero_iff hx hy).mpr ⟨below, above⟩
        rw [List.filter_cons_of_pos (by simpa using order.self_eq_zero hx),
          List.filter_cons_of_pos (by simpa using reads)] at heads
        exact (List.cons.inj heads).1
      subst equal
      rw [ih (fun r member => lengths r (by simp [member])) (List.perm_cons x |>.mp perm)
        (List.pairwise_cons.mp first).2 (List.pairwise_cons.mp second).2]
      intro k hk
      have tails := same k hk
      by_cases matched : sign k x = 0
      · rw [List.filter_cons_of_pos (by simpa using matched), List.filter_cons_of_pos (by simpa using matched)] at tails
        exact (List.cons.inj tails).2
      · rw [List.filter_cons_of_neg (by simpa using matched), List.filter_cons_of_neg (by simpa using matched)] at tails
        exact tails

theorem StableSort.unique (order : Orders compare size sign) {records xs ys : List (List UInt8)}
    (lengths : ∀ r ∈ records, r.length = size) (first : StableSort sign size records xs)
    (second : StableSort sign size records ys) : xs = ys := by
  refine eq_of_ordered order (first.sizes lengths) (first.perm.trans second.perm.symm) first.ordered
    second.ordered ?_
  intro k hk
  rw [first.stable k hk, second.stable k hk]

/-! ## Sorting a list of records -/

/-- If a record is less than the first of a list in order, none of the list compares as equal to what it does. -/
theorem filter_eq_nil_of_lt (order : Orders compare size sign) {k r s : List UInt8} {rest : List (List UInt8)}
    (hk : k.length = size) (hr : r.length = size) (lengths : ∀ t ∈ s :: rest, t.length = size)
    (ordered : (s :: rest).Pairwise fun a b => sign a b ≤ 0) (less : sign r s < 0) (equal : sign k r = 0) :
    (s :: rest).filter (sign k · = 0) = [] := by
  rw [List.filter_eq_nil_iff]
  intro t member
  rw [decide_eq_true_eq]
  intro alike
  have hs : s.length = size := lengths s (by simp)
  have ht : t.length = size := lengths t member
  have behind : sign s t ≤ 0 := order.head_le ht ordered member
  -- `s ≤ t ≤ k ≤ r`, against `r < s`
  have toKey : sign t k ≤ 0 := ((order.eq_zero_iff hk ht).mp alike).2
  have fromKey : sign k r ≤ 0 := ((order.eq_zero_iff hk hr).mp equal).1
  have back : sign s r ≤ 0 :=
    order.trans s t r hs ht hr behind (order.trans t k r ht hk hr toKey fromKey)
  exact absurd less ((order.not_neg_iff hr hs).mpr back)

/-- A record is put into a list in order as if the list with the record behind it were sorted. -/
theorem insert_stable (order : Orders compare size sign) {r : List UInt8} (hr : r.length = size)
    (sorted : List (List UInt8)) (lengths : ∀ s ∈ sorted, s.length = size)
    (ordered : sorted.Pairwise fun a b => sign a b ≤ 0) :
    ∃ out, insert compare r sorted = .ok out ∧ StableSort sign size (sorted ++ [r]) out := by
  induction sorted with
  | nil => exact ⟨[r], rfl, .of_ordered (List.pairwise_singleton _ r)⟩
  | cons s rest ih =>
    have hs : s.length = size := lengths s (by simp)
    have compared : compare r s = .ok (sign r s) := order.gives r s hr hs
    have orders := List.pairwise_cons.mp ordered
    by_cases less : sign r s < 0
    · refine ⟨r :: s :: rest, ?_, ?_, ?_, ?_⟩
      · simp [insert, compared, less, bind, Except.bind]
      · exact (List.perm_append_singleton r (s :: rest)).symm
      · rw [List.pairwise_cons]
        refine ⟨?_, ordered⟩
        intro t member
        have ht : t.length = size := lengths t member
        exact order.trans r s t hr hs ht (Int.le_of_lt less) (order.head_le ht ordered member)
      · intro k hk
        rw [List.filter_append]
        by_cases equal : sign k r = 0
        · rw [List.filter_cons_of_pos (by simpa using equal),
            filter_eq_nil_of_lt order hk hr lengths ordered less equal]
          simp [equal]
        · rw [List.filter_cons_of_neg (by simpa using equal)]
          simp [equal]
    · obtain ⟨out, inserted, sort⟩ := ih (fun t member => lengths t (by simp [member])) orders.2
      refine ⟨s :: out, ?_, sort.perm.cons s, ?_, ?_⟩
      · simp [insert, compared, less, inserted, bind, Except.bind]
      · rw [List.pairwise_cons]
        refine ⟨?_, sort.ordered⟩
        intro t member
        rcases List.mem_append.mp (sort.perm.mem_iff.mp member) with earlier | last
        · exact orders.1 t earlier
        · rw [List.mem_singleton.mp last]
          exact (order.not_neg_iff hr hs).mp less
      · intro k hk
        rw [List.cons_append, List.filter_cons, List.filter_cons, sort.stable k hk]

theorem sortOnto_stable (order : Orders compare size sign) (records : List (List UInt8))
    {base sorted : List (List UInt8)} (start : StableSort sign size base sorted)
    (lengths : ∀ r ∈ base ++ records, r.length = size) :
    ∃ out, sortOnto compare sorted records = .ok out ∧ StableSort sign size (base ++ records) out := by
  induction records generalizing base sorted with
  | nil => exact ⟨sorted, rfl, by rwa [List.append_nil]⟩
  | cons r rest ih =>
    have known : ∀ s ∈ sorted, s.length = size := start.sizes fun s member => lengths s (by simp [member])
    obtain ⟨next, inserted, sort⟩ := insert_stable order (lengths r (by simp)) sorted known start.ordered
    obtain ⟨out, rest_sorted, done⟩ := ih (start.append sort) (by simpa using lengths)
    refine ⟨out, ?_, by simpa using done⟩
    rw [sortOnto, inserted]
    exact rest_sorted

theorem sorted_stable (order : Orders compare size sign) {records : List (List UInt8)}
    (lengths : ∀ r ∈ records, r.length = size) :
    ∃ out, sorted compare records = .ok out ∧ StableSort sign size records out :=
  sortOnto_stable order records (.of_ordered .nil) lengths

/-- Records in order stay as they are, as they are a stable sort of themselves and there is no other. -/
theorem sorted_of_ordered (order : Orders compare size sign) {records : List (List UInt8)}
    (lengths : ∀ r ∈ records, r.length = size) (ordered : records.Pairwise fun a b => sign a b ≤ 0) :
    sorted compare records = .ok records := by
  obtain ⟨out, inOrder, stable⟩ := sorted_stable order lengths
  rw [inOrder, stable.unique order lengths (.of_ordered ordered)]

end

theorem sorted_of_few (compare : Comparison) {records : List (List UInt8)} (few : records.length < 2) :
    sorted compare records = .ok records := by
  match records with
  | [] => rfl
  | [r] => rfl
  | _ :: _ :: _ =>
    simp only [List.length_cons] at few
    omega

/-! ## Records of a buffer -/

theorem flatten_split (size count : Nat) (bytes : List UInt8) :
    (split size count bytes).flatten = bytes.take (count * size) := by
  induction count generalizing bytes with
  | zero => simp [split]
  | succ count ih => rw [split, List.flatten_cons, ih, ← List.take_add, Nat.succ_mul, Nat.add_comm]

theorem length_of_mem_split {size count : Nat} {bytes r : List UInt8} (fits : count * size ≤ bytes.length)
    (member : r ∈ split size count bytes) : r.length = size := by
  induction count generalizing bytes with
  | zero => simp [split] at member
  | succ count ih =>
    rw [Nat.succ_mul] at fits
    rcases List.mem_cons.mp member with rfl | later
    · rw [List.length_take]
      omega
    · refine ih ?_ later
      rw [List.length_drop]
      omega

theorem split_flatten {size : Nat} {records : List (List UInt8)} (lengths : ∀ r ∈ records, r.length = size)
    (tail : List UInt8) : split size records.length (records.flatten ++ tail) = records := by
  induction records with
  | nil => rfl
  | cons r rest ih =>
    have hr : r.length = size := lengths r (by simp)
    rw [List.flatten_cons, List.append_assoc, List.length_cons, split, List.take_left' hr, List.drop_left' hr,
      ih fun s member => lengths s (by simp [member])]

section

variable {compare : Comparison} {sign : List UInt8 → List UInt8 → Int} {size count : Nat} {bytes : List UInt8}
  {access : Access}

theorem ordering_of_integer (op : Operator) {v : Value} {n : Int} (integer : v.integer? = some n) (i : Int) :
    ordering op v i = .ok (some (Ord.compare n i)) := by
  cases v with
  | bool b => simp_all [ordering, Value.isNumber, Value.compareInt?]
  | int m => simp_all [ordering, Value.isNumber, Value.compareInt?]
  | _ => simp [Value.integer?] at integer

theorem checkLayout_of_integer {count size : Value} {n k : Int} (counted : count.integer? = some n)
    (sized : size.integer? = some k) :
    checkLayout count size =
      if n < 0 ∨ k ≤ 0 then .error (.value (.recordLayout count.plain size.plain)) else .ok () := by
  rw [checkLayout, ordering_of_integer _ counted, ordering_of_integer _ sized]
  by_cases negative : n < 0
  · simp only [Int.compare_eq_lt.mpr negative, negative, true_or, if_true]
    rfl
  · have proper : Ord.compare n 0 ≠ .lt := by rwa [ne_eq, Int.compare_eq_lt]
    simp only [bind, Except.bind, Option.some.injEq, proper, if_false, negative, false_or]
    cases sign : Ord.compare k 0 with
    | lt => rw [if_pos (Int.le_of_lt (Int.compare_eq_lt.mp sign))]
    | eq => rw [if_pos (Int.le_of_eq (Int.compare_eq_eq.mp sign))]
    | gt => rw [if_neg (Int.not_le.mpr (Int.compare_eq_gt.mp sign))]

/-- With integers for the layout, the checks of the arguments are those of sorting itself. -/
theorem sortValues_int (access : Access) (bytes : List UInt8) (count size : Int) (compare : Comparison) :
    sortValues access bytes (.int count) (.int size) compare = sort access bytes count size compare := by
  have counted : (Value.int count).plain = Numeral.signed count := rfl
  have sized : (Value.int size).plain = Numeral.signed size := rfl
  rw [sortValues, checkLayout_of_integer rfl rfl]
  by_cases refused : count < 0 ∨ size ≤ 0
  · rw [sort, layoutFault?, if_pos refused, if_pos refused]
    rfl
  · rw [if_neg refused]
    by_cases long : (bytes.length : Int) < count * size
    · rw [sort, layoutFault?, if_neg refused, if_pos long]
      simp only [bind, Except.bind, Value.integer?, if_pos long, counted, sized]
    · simp only [bind, Except.bind, Value.integer?, if_neg long]

/-- Records of a buffer in another order in the place of its records: its length and what lies behind them
    stay, and the records are those. -/
theorem flatten_append_drop (fits : count * size ≤ bytes.length) {records : List (List UInt8)}
    (perm : records.Perm (split size count bytes)) :
    (records.flatten ++ bytes.drop (count * size)).length = bytes.length ∧
      (records.flatten ++ bytes.drop (count * size)).drop (count * size) = bytes.drop (count * size) ∧
      split size count (records.flatten ++ bytes.drop (count * size)) = records := by
  have span : records.flatten.length = count * size := by
    rw [perm.flatten.length_eq, flatten_split, List.length_take, Nat.min_eq_left fits]
  have number : records.length = count := by
    rw [perm.length_eq, length_split]
  refine ⟨?_, List.drop_left' span, ?_⟩
  · rw [List.length_append, span, List.length_drop]
    omega
  · have cut := split_flatten (fun r member => length_of_mem_split fits (perm.mem_iff.mp member))
      (bytes.drop (count * size))
    rwa [number] at cut

theorem sort_of_sorted (positive : 0 < size) (fits : count * size ≤ bytes.length)
    (leave : access = .writable ∨ count < 2) {records : List (List UInt8)}
    (inOrder : sorted compare (split size count bytes) = .ok records) :
    sort access bytes count size compare = .ok (records.flatten ++ bytes.drop (count * size)) := by
  have layout : layoutFault? bytes.length count size = none := by
    have within : ¬ (bytes.length : Int) < count * size := by
      rw [← Int.natCast_mul]
      omega
    rw [layoutFault?, if_neg (by omega), if_neg within]
  have product : ((count : Int) * size).toNat = count * size := by
    rw [← Int.natCast_mul, Int.toNat_natCast]
  rw [sort, layout]
  by_cases few : count < 2
  · have kept : sorted compare (split size count bytes) = .ok (split size count bytes) :=
      sorted_of_few compare (by rwa [length_split])
    rw [inOrder, Except.ok.injEq] at kept
    rw [kept, flatten_split, List.take_append_drop]
    exact if_pos (by omega)
  · have writable : access = .writable := leave.resolve_right few
    have many : ¬ (count : Int) < 2 := by omega
    simp only [if_neg many, Int.toNat_natCast, product, inOrder, writable]
    rfl

theorem boundary_natCast (length n : Nat) : boundary length n = min n length := by
  rw [boundary, if_neg (by omega), Int.toNat_natCast]

/-- A view that lies between other bytes is sorted as a buffer of its own, and the others stay. -/
theorem sortViewValues_append (access : Access) (before viewed after : List UInt8) (count size : Value)
    (compare : Comparison) :
    sortViewValues access (before ++ viewed ++ after) (some before.length)
        (some (before.length + viewed.length : Nat)) count size compare =
      (sortValues access viewed count size compare).map fun out => before ++ out ++ after := by
  have start : min before.length (before ++ viewed ++ after).length = before.length := by
    simp only [List.length_append]
    omega
  have stop : min (before.length + viewed.length) (before ++ viewed ++ after).length =
      (before ++ viewed).length := by
    simp only [List.length_append]
    omega
  have outside : withView (before ++ viewed ++ after) before.length (before ++ viewed).length =
      fun out => before ++ out ++ after := by
    funext out
    rw [withView, List.drop_left, List.length_append, Nat.min_eq_left (Nat.le_add_right _ _),
      List.append_assoc before viewed, List.take_left]
  simp only [sortViewValues, Option.map_some, Option.getD_some, boundary_natCast, start, stop, outside,
    List.take_left, List.drop_left]

/-- A buffer with records of one size at its start, and a comparison that is a total preorder on them. If the
    buffer may be written to, or there are too few records for a change, sorting gives it the same records in
    order, those that compare as equal in their old order, which no other list of records does; the bytes
    behind the records stay. Sorting again changes nothing. In a view of a larger buffer the same happens, and
    the bytes outside the view stay. -/
theorem sortValues_stable (order : Orders compare size sign) (positive : 0 < size)
    (fits : count * size ≤ bytes.length) :
    ∃ out : List UInt8,
      (∀ access viewed, access = .writable ∨ count < 2 → viewed = bytes ∨ viewed = out →
        sortValues access viewed (.int count) (.int size) compare = .ok out ∧
        ∀ before after : List UInt8,
          sortViewValues access (before ++ viewed ++ after) (some before.length)
            (some (before.length + viewed.length : Nat)) (.int count) (.int size) compare =
          .ok (before ++ out ++ after)) ∧
      out.length = bytes.length ∧ out.drop (count * size) = bytes.drop (count * size) ∧
      StableSort sign size (split size count bytes) (split size count out) ∧
      ∀ records, StableSort sign size (split size count bytes) records → records = split size count out := by
  have lengths : ∀ r ∈ split size count bytes, r.length = size := fun r => length_of_mem_split fits
  obtain ⟨records, inOrder, stable⟩ := sorted_stable order lengths
  obtain ⟨length, tail, cut⟩ := flatten_append_drop fits stable.perm
  refine ⟨records.flatten ++ bytes.drop (count * size), ?_, length, tail, ?_, ?_⟩
  · intro access viewed leave which
    have once : sortValues access viewed (.int count) (.int size) compare =
        .ok (records.flatten ++ bytes.drop (count * size)) := by
      rw [sortValues_int]
      rcases which with rfl | rfl
      · exact sort_of_sorted positive fits leave inOrder
      · have again : sorted compare records = .ok records :=
          sorted_of_ordered order (stable.sizes lengths) stable.ordered
        rw [sort_of_sorted positive (by omega) leave (by rw [cut, again]), tail]
    refine ⟨once, ?_⟩
    intro before after
    rw [sortViewValues_append, once]
    rfl
  · rwa [cut]
  · intro others sortsToo
    rw [cut]
    exact sortsToo.unique order lengths stable

/-- Three records of two bytes by their first byte, with two of them alike, in a view with a byte behind them
    and a byte on each side. -/
theorem sortValues_stable_by_first_byte :
    let sign (a b : List UInt8) : Int := (a.headD 0).toNat - (b.headD 0).toNat
    let compare : Comparison := fun a b => .ok (sign a b)
    Orders compare 2 sign ∧ 0 < 2 ∧ 3 * 2 ≤ [2, 1, 1, 9, 2, 0, 7].length ∧
      sortValues .writable [2, 1, 1, 9, 2, 0, 7] (.int 3) (.int 2) compare = .ok [1, 9, 2, 1, 2, 0, 7] ∧
      sortValues .writable [1, 9, 2, 1, 2, 0, 7] (.int 3) (.int 2) compare = .ok [1, 9, 2, 1, 2, 0, 7] ∧
      sortViewValues .writable [5, 2, 1, 1, 9, 2, 0, 7, 4] (some 1) (some 8) (.int 3) (.int 2) compare =
        .ok [5, 1, 9, 2, 1, 2, 0, 7, 4] ∧
      StableSort sign 2 [[2, 1], [1, 9], [2, 0]] [[1, 9], [2, 1], [2, 0]] := by
  intro sign compare
  have order : Orders compare 2 sign :=
    { gives := fun _ _ _ _ => rfl
      turns := fun a b _ _ => by
        simp only [sign]
        omega
      trans := fun a b c _ _ _ => by
        simp only [sign]
        omega }
  have fits : 3 * 2 ≤ ([2, 1, 1, 9, 2, 0, 7] : List UInt8).length := by decide
  obtain ⟨out, sorts, -, -, stable, -⟩ := sortValues_stable order (by decide) fits
  have result : out = [1, 9, 2, 1, 2, 0, 7] := by
    have once := (sorts .writable _ (.inl rfl) (.inl rfl)).1
    exact (Except.ok.inj once).symm
  subst result
  exact ⟨order, by decide, by decide, (sorts .writable _ (.inl rfl) (.inl rfl)).1,
    (sorts .writable _ (.inl rfl) (.inr rfl)).1, (sorts .writable _ (.inl rfl) (.inl rfl)).2 [5] [4], stable⟩

end

end SeedStream.Records
