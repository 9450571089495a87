import Mathlib
import SeedStream.Chart
import SeedStream.Proofs.LaneRows
import SeedStream.Proofs.Results

/-!
# Counts of a sample

The battery counts a sample three times: the bits that are one, byte by byte; the bytes, by their value; and
the words in which a bit is one, bit by bit. Each count is what a plain count of the sample gives
(`get_histogram`, `bitCounts_eq`), so the three agree with one another and with the chart's own count of the
bytes, and none of them depends on the order of the words.
-/

namespace SeedStream

/-! ## Sums over bits -/

theorem foldl_add_eq_sum {α : Type} (f : α → Nat) (l : List α) : l.foldl (fun n a => n + f a) 0 = (l.map f).sum := by
  rw [List.sum_eq_foldl, List.foldl_map]

theorem sum_range_mul (n m : Nat) (f : Nat → Nat) :
    ((List.range (n * m)).map f).sum =
      ((List.range m).map fun k => ((List.range n).map fun j => f (n * k + j)).sum).sum := by
  induction m with
  | zero => simp
  | succ m ih =>
    rw [Nat.mul_succ, List.range_add, List.range_succ]
    simp [ih, Function.comp_def]

theorem toNat_cpop_eq_sum {n : Nat} (x : BitVec n) :
    x.cpop.toNat = ((List.range n).map fun i => (x.toNat.testBit i).toNat).sum := by
  have upTo (k acc : Nat) : x.cpopNatRec k acc = acc + ((List.range k).map fun i => (x.getLsbD i).toNat).sum := by
    induction k generalizing acc with
    | zero => simp
    | succ k ih =>
      rw [BitVec.cpopNatRec_succ, ih, List.range_succ]
      simp
      omega
  rw [BitVec.toNat_cpop, upTo, Nat.zero_add]
  simp only [BitVec.testBit_toNat]

theorem sum_map_eq_sum_count {α : Type} [Fintype α] [DecidableEq α] (l : List α) (f : α → Nat) :
    (l.map f).sum = ∑ a, f a * l.count a := by
  rw [Finset.sum_list_map_count]
  refine Finset.sum_subset_zero_on_sdiff (Finset.subset_univ _) ?_ ?_
  · intro a outside
    have absent : a ∉ l := by simpa using outside
    rw [List.count_eq_zero_of_not_mem absent, Nat.mul_zero]
  · intro a _
    rw [smul_eq_mul, Nat.mul_comm]

namespace Word

theorem toNat_bit (w : Word) {i : Nat} (inside : i < 32) :
    (bit w (UInt32.ofNat i)).toNat = (w.toNat.testBit i).toNat := by
  have place : (UInt32.ofNat i).toNat % 32 = i := by
    rw [UInt32.toNat_ofNat']
    omega
  rw [bit, UInt32.toNat_and, UInt32.toNat_shiftRight, place, UInt32.toNat_one, Nat.and_one_is_mod,
    Nat.shiftRight_eq_div_pow, Nat.toNat_testBit]

theorem bytes_eq (w : Word) : bytes w = (List.range 4).map fun k => (w >>> UInt32.ofNat (8 * k)).toUInt8 := by
  have whole : w >>> UInt32.ofNat (8 * 0) = w := UInt32.shiftRight_zero
  simp only [List.range_succ, List.range_zero, List.nil_append, List.map_append, List.map_cons, List.map_nil, whole]
  rfl

theorem testBit_byte (w : Word) {k j : Nat} (inside : k < 4) (low : j < 8) :
    (w >>> UInt32.ofNat (8 * k)).toUInt8.toNat.testBit j = w.toNat.testBit (8 * k + j) := by
  have place : (UInt32.ofNat (8 * k)).toNat % 32 = 8 * k := by
    rw [UInt32.toNat_ofNat']
    omega
  rw [UInt32.toNat_toUInt8, UInt32.toNat_shiftRight, place, Nat.testBit_mod_two_pow, Nat.testBit_shiftRight]
  simp [low]

end Word

namespace Battery

/-! ## Ones -/

theorem byteOnes_eq (b : UInt8) : byteOnes b = b.toBitVec.cpop.toNat := by
  rw [byteOnes, foldl_add_eq_sum, toNat_cpop_eq_sum]
  congr 1
  refine List.map_congr_left fun i _ => ?_
  rw [Nat.toNat_testBit]
  rfl

/-- The bytes of a word have as many ones as the word. -/
theorem sum_byteOnes_bytes (w : Word) :
    ((Word.bytes w).map byteOnes).sum = ((List.range 32).map fun i => (w.toNat.testBit i).toNat).sum := by
  rw [show 32 = 8 * 4 from rfl, sum_range_mul, Word.bytes_eq, List.map_map]
  congr 1
  refine List.map_congr_left fun k inside => ?_
  rw [Function.comp_apply, byteOnes_eq, toNat_cpop_eq_sum]
  congr 1
  refine List.map_congr_left fun j low => ?_
  rw [List.mem_range] at inside low
  exact congrArg Bool.toNat (Word.testBit_byte w inside low)

theorem ones_eq_sum (ws : List Word) : ones ws = ((sampleBytes ws).map byteOnes).sum := foldl_add_eq_sum ..

theorem bitCount_eq_countP (ws : List Word) {i : Nat} (inside : i < 32) :
    bitCount ws i = ws.countP fun w => w.toNat.testBit i := by
  rw [bitCount, foldl_add_eq_sum]
  induction ws with
  | nil => rfl
  | cons w rest ih =>
    rw [List.map_cons, List.sum_cons, ih, Word.toNat_bit w inside, List.countP_cons, Nat.add_comm]
    cases w.toNat.testBit i <;> rfl

theorem bitCounts_eq (ws : List Word) :
    bitCounts ws = (List.range 32).map fun i => ws.countP fun w => w.toNat.testBit i :=
  List.map_congr_left fun _ inside => bitCount_eq_countP ws (List.mem_range.mp inside)

/-- Counting by bits or by words comes to the same. -/
theorem ones_eq_sum_bitCounts (ws : List Word) : ones ws = (bitCounts ws).sum := by
  rw [ones_eq_sum, bitCounts_eq]
  induction ws with
  | nil => rfl
  | cons w rest ih =>
    have counted (i : Nat) : (w :: rest).countP (fun w => w.toNat.testBit i) =
        (w.toNat.testBit i).toNat + rest.countP fun w => w.toNat.testBit i := by
      rw [List.countP_cons, Nat.add_comm]
      cases w.toNat.testBit i <;> rfl
    have bytes : sampleBytes (w :: rest) = Word.bytes w ++ sampleBytes rest := List.flatMap_cons
    rw [bytes, List.map_append, List.sum_append, ih, sum_byteOnes_bytes]
    simp only [counted, List.sum_map_add]

/-! ## Bytes -/

theorem get_tally (counts : Vector Nat 256) (b : UInt8) (c : Fin 256) :
    (tally counts b).get c = counts.get c + if b.toFin = c then 1 else 0 := by
  have same : b.toNat = c.val ↔ b.toFin = c := Fin.val_eq_val _ _
  simp only [tally, Vector.get_eq_getElem, Vector.getElem_set, same]
  split
  case isTrue here => simp [← here]
  case isFalse => rfl

theorem get_foldl_tally (counts : Vector Nat 256) (bs : List UInt8) (c : Fin 256) :
    (bs.foldl tally counts).get c = counts.get c + (bs.map UInt8.toFin).count c := by
  induction bs generalizing counts with
  | nil => simp
  | cons b rest ih =>
    rw [List.foldl_cons, ih, get_tally, List.map_cons, List.count_cons]
    simp only [beq_iff_eq]
    omega

/-- The histogram says of each byte how often it occurs. -/
theorem get_histogram (ws : List Word) (c : Fin 256) :
    (histogram ws).get c = ((sampleBytes ws).map UInt8.toFin).count c := by
  rw [histogram, get_foldl_tally]
  simp [Vector.get_eq_getElem]

theorem ones_eq_sum_histogram (ws : List Word) :
    ones ws = ∑ b : Fin 256, (BitVec.ofFin (w := 8) b).cpop.toNat * (histogram ws).get b := by
  have bytes : (sampleBytes ws).map byteOnes =
      ((sampleBytes ws).map UInt8.toFin).map fun b => (BitVec.ofFin (w := 8) b).cpop.toNat := by
    rw [List.map_map]
    exact List.map_congr_left fun b _ => byteOnes_eq b
  rw [ones_eq_sum, bytes, sum_map_eq_sum_count]
  simp only [get_histogram]

theorem length_sampleBytes (ws : List Word) : (sampleBytes ws).length = 4 * ws.length := by
  induction ws with
  | nil => rfl
  | cons w rest ih =>
    have bytes : sampleBytes (w :: rest) = Word.bytes w ++ sampleBytes rest := List.flatMap_cons
    rw [bytes, List.length_append, ih, List.length_cons, Nat.mul_succ, Nat.add_comm]
    rfl

theorem sum_histogram (ws : List Word) : ∑ b : Fin 256, (histogram ws).get b = 4 * ws.length := by
  have once := sum_map_eq_sum_count ((sampleBytes ws).map UInt8.toFin) fun _ => 1
  simp only [Nat.one_mul, ← get_histogram] at once
  rw [← once, ← length_sampleBytes, List.map_const', List.sum_replicate, List.length_map, smul_eq_mul, Nat.mul_one]

/-- The chart counts the bytes in its own way, and comes to the histogram. -/
theorem byteCounts_eq (ws : List Word) : Chart.byteCounts ws = (histogram ws).toList := by
  have tallied (counts : Vector Nat 256) (b : UInt8) :
      counts.toArray.modify b.toNat (· + 1) = (tally counts b).toArray := by
      apply Array.ext
      · simp
      · intro i short inside
        simp only [tally, Vector.toArray_set, Array.getElem_modify, Array.getElem_set, Vector.get_eq_getElem,
          Vector.getElem_toArray]
        split
        case isTrue here => simp [← here]
        case isFalse => rfl
  have folded (counts : Vector Nat 256) (bs : List UInt8) :
      bs.foldl (fun counts b => counts.modify b.toNat (· + 1)) counts.toArray = (bs.foldl tally counts).toArray := by
    induction bs generalizing counts with
    | nil => rfl
    | cons b rest ih => rw [List.foldl_cons, List.foldl_cons, tallied, ih]
  have flat : ws.foldl Chart.tallyWord (Array.replicate 256 0) =
      (sampleBytes ws).foldl (fun counts b => counts.modify b.toNat (· + 1)) (Array.replicate 256 0) :=
    List.foldl_flatMap.symm
  rw [Chart.byteCounts, flat]
  exact congrArg Array.toList (folded (Vector.replicate 256 0) (sampleBytes ws))

/-! ## The order of the words -/

variable {ws vs : List Word}

theorem histogram_perm (reordered : vs.Perm ws) : histogram vs = histogram ws := by
  apply Vector.ext
  intro c inside
  have bytes : (sampleBytes vs).Perm (sampleBytes ws) := reordered.flatMap_right Word.bytes
  have counted := (bytes.map UInt8.toFin).count_eq ⟨c, inside⟩
  rwa [← get_histogram, ← get_histogram] at counted

theorem bitCounts_perm (reordered : vs.Perm ws) : bitCounts vs = bitCounts ws := by
  rw [bitCounts_eq, bitCounts_eq]
  exact List.map_congr_left fun i _ => reordered.countP_eq _

theorem ones_perm (reordered : vs.Perm ws) : ones vs = ones ws := by
  rw [ones_eq_sum_bitCounts, ones_eq_sum_bitCounts, bitCounts_perm reordered]

theorem biases_perm (reordered : vs.Perm ws) : biases Float vs = biases Float ws := by
  rw [biases, biases, bitCounts_perm reordered, reordered.length_eq]

theorem run_perm (known : Distributions) (reordered : vs.Perm ws) (alpha : Value) :
    run known vs alpha = run known ws alpha := by
  simp only [run, passes, maxBias, reordered.length_eq, ones_perm reordered, histogram_perm reordered,
    biases_perm reordered]

end Battery

/-! ## Samples as a caller gives them -/

/-- A sample as a list of integers. -/
def Sample.toValue (ws : List Word) : Value :=
  .list (ws.map fun w => .int w.toNat)

namespace Sample

theorem isPlain_toNat (w : Word) : isPlain (.int w.toNat) = true := by
  have small := w.toNat_lt
  rw [isPlain, Value.isLong, Bool.and_eq_true, decide_eq_true_eq, decide_eq_true_eq]
  omega

theorem nonempty_toValue {ws : List Word} (words : ws ≠ []) : nonempty (toValue ws) = .ok ws := by
  have ints : ws.map (fun w => Value.int w.toNat) = (ws.map fun w => (w.toNat : Int)).map .int := by
    rw [List.map_map]
    rfl
  have plain : ((ws.map fun w => (w.toNat : Int)).map Value.int).all isPlain = true := by
    refine List.all_eq_true.mpr fun v member => ?_
    simp only [List.mem_map] at member
    obtain ⟨i, ⟨w, -, rfl⟩, rfl⟩ := member
    exact isPlain_toNat w
  have taken : ((ws.map fun w => (w.toNat : Int)).map Value.int).mapM Value.toInteger =
      .ok ((ws.map fun w => (w.toNat : Int)).map id) := Value.mapM_map_eq_ok fun i _ => Value.toInteger_int i
  have back : (ws.map fun w => (w.toNat : Int)).map Word.ofInt = ws := by
    rw [List.map_map, show Word.ofInt ∘ (fun w : Word => (w.toNat : Int)) = id from funext Word.ofInt_toNat, List.map_id]
  have whole : ofValue (toValue ws) = .ok ws := by
    rw [ofValue, toValue, ints, Value.row_ints, ok_bind, ofRow, if_pos plain, taken, ok_bind, List.map_id, back]
    rfl
  rw [nonempty, whole, ok_bind, if_neg (by simpa using words)]

end Sample

namespace Battery

/-- A probability of a level that is a double is compared with it. -/
theorem reaches_real (p a : Float) : reaches p (.real a) = .ok (decide (a <= p)) := rfl

/-- What a report says of a sample: the counts, what is made of them and the verdict on that. -/
theorem report_of_run {known : Distributions} {ws : List Word} {alpha : Value} {report : Report}
    (done : run known ws alpha = .ok report) :
    report.samples = ws.length ∧ report.onesFraction = Double.ofRatio false (ones ws) (32 * ws.length) ∧
      report.monobit = 2.0 * known.normalTail (onesDeviation (32 * ws.length) (ones ws)).abs ∧
      (report.byteStat, report.byteProb) = known.chiSquare (histogram ws).toList ∧
      report.maxBias = ((bitCounts ws).map (bitBias Float ws.length)).foldl Scale.max (Scale.ofNat 0) ∧
      report.biasLimit = biasLimit Float ws.length ∧ report.alpha = alpha ∧
      (report.passed = true ↔ reaches report.monobit alpha = .ok true ∧ reaches report.byteProb alpha = .ok true ∧
        Scale.le report.maxBias report.biasLimit = true) := by
  obtain ⟨probable, reached, done⟩ := bind_eq_ok_iff.mp done
  -- The second probability counts only if the first one reaches the level.
  split at done
  case isTrue likely =>
    obtain ⟨even, reachedToo, done⟩ := bind_eq_ok_iff.mp done
    cases done
    refine ⟨rfl, rfl, rfl, rfl, rfl, rfl, rfl, ?_⟩
    rw [passes, Bool.and_eq_true, Bool.and_eq_true, and_assoc, reached, reachedToo, Except.ok.injEq, Except.ok.injEq]
  case isFalse unlikely =>
    cases done
    refine ⟨rfl, rfl, rfl, rfl, rfl, rfl, rfl, ?_⟩
    rw [passes, reached, Except.ok.injEq, Bool.and_false, Bool.false_and]
    exact ⟨nofun, fun verdict => absurd verdict.1 unlikely⟩

/-- A level that is a double gives a report. -/
theorem run_real (known : Distributions) (ws : List Word) (a : Float) :
    ∃ report, run known ws (.real a) = .ok report := by
  rw [run]
  simp only [reaches_real, ok_bind]
  split
  all_goals exact ⟨_, rfl⟩

theorem runOn_toValue (known : Distributions) {ws : List Word} (words : ws ≠ []) (alpha : Value) :
    runOn (some known) (Sample.toValue ws) alpha = run known ws alpha := by
  rw [runOn, Sample.nonempty_toValue words]
  rfl

/-- The counts of a sample. The ones are as many as those of each byte times its number in the histogram, and
    as the words in which each bit is one together; the histogram has four bytes for each word, and the chart
    has the same one; no bit is one in more words than there are. The battery and the deviations that it
    compares are those of these counts: for any distributions that it may ask there is a report for each level
    that is a double, and a report gives the fraction of the ones, their probability, what the distributions
    say of the histogram, the greatest deviation of a count of a bit with its limit, and the verdict on these.
    Another order of the words changes none of this, and so not the report. -/
theorem counts_agree_in_every_order {ws : List Word} (words : ws ≠ []) :
    (ones ws = ∑ b : Fin 256, (BitVec.ofFin (w := 8) b).cpop.toNat * (histogram ws).get b ∧
      ones ws = (bitCounts ws).sum ∧ ∑ b : Fin 256, (histogram ws).get b = 4 * ws.length) ∧
      (∀ b : Fin 256, (histogram ws).get b = ((ws.flatMap Word.bytes).map UInt8.toFin).count b) ∧
      (bitCounts ws = (List.range 32).map fun i => ws.countP fun w => w.toNat.testBit i) ∧
      (∀ k ∈ bitCounts ws, k ≤ ws.length) ∧
      Chart.byteCounts ws = (histogram ws).toList ∧
      biasesOf (Sample.toValue ws) = .ok ((bitCounts ws).map (bitBias Float ws.length)) ∧
      (∀ known alpha, runOn (some known) (Sample.toValue ws) alpha = run known ws alpha) ∧
      (∀ known (a : Float), ∃ report, run known ws (.real a) = .ok report) ∧
      (∀ known alpha report, run known ws alpha = .ok report →
        report.samples = ws.length ∧ report.onesFraction = Double.ofRatio false (ones ws) (32 * ws.length) ∧
          report.monobit = 2.0 * known.normalTail (onesDeviation (32 * ws.length) (ones ws)).abs ∧
          (report.byteStat, report.byteProb) = known.chiSquare (histogram ws).toList ∧
          report.maxBias = ((bitCounts ws).map (bitBias Float ws.length)).foldl Scale.max (Scale.ofNat 0) ∧
          report.biasLimit = biasLimit Float ws.length ∧ report.alpha = alpha ∧
          (report.passed = true ↔ reaches report.monobit alpha = .ok true ∧
            reaches report.byteProb alpha = .ok true ∧ Scale.le report.maxBias report.biasLimit = true)) ∧
      ∀ vs : List Word, vs.Perm ws → ones vs = ones ws ∧ histogram vs = histogram ws ∧
        bitCounts vs = bitCounts ws ∧ Chart.byteCounts vs = Chart.byteCounts ws ∧
        ∀ known alpha, runOn (some known) (Sample.toValue vs) alpha =
          runOn (some known) (Sample.toValue ws) alpha := by
  refine ⟨⟨ones_eq_sum_histogram ws, ones_eq_sum_bitCounts ws, sum_histogram ws⟩, get_histogram ws, bitCounts_eq ws, ?_,
    byteCounts_eq ws, ?_, fun known => runOn_toValue known words, fun known => run_real known ws,
    fun _ _ _ => report_of_run, fun vs reordered => ?_⟩
  · intro k member
    rw [bitCounts_eq] at member
    obtain ⟨i, -, rfl⟩ := List.mem_map.mp member
    exact List.countP_le_length
  · rw [biasesOf, Sample.nonempty_toValue words]
    rfl
  · have there : vs ≠ [] := fun empty => words (List.nil_perm.mp (empty ▸ reordered))
    refine ⟨ones_perm reordered, histogram_perm reordered, bitCounts_perm reordered, ?_, fun known alpha => ?_⟩
    · rw [byteCounts_eq, byteCounts_eq, histogram_perm reordered]
    · rw [runOn_toValue known there, runOn_toValue known words, run_perm known reordered]

/-- Three words and the same the other way round. -/
theorem counts_agree_in_every_order_reversed :
    [0x80000001, 7, 0xff] ≠ ([] : List Word) ∧ [0xff, 7, 0x80000001].Perm ([0x80000001, 7, 0xff] : List Word) ∧
      ones [0x80000001, 7, 0xff] = 13 ∧ (bitCounts [0x80000001, 7, 0xff]).sum = 13 ∧
      runOn (some .computed) (Sample.toValue [0xff, 7, 0x80000001]) (.int 0) =
        runOn (some .computed) (Sample.toValue [0x80000001, 7, 0xff]) (.int 0) := by
  have words : ([0x80000001, 7, 0xff] : List Word) ≠ [] := List.cons_ne_nil _ _
  have reordered : [0xff, 7, 0x80000001].Perm ([0x80000001, 7, 0xff] : List Word) := by decide
  obtain ⟨⟨-, byBits, -⟩, -, -, -, -, -, -, -, -, perm⟩ := counts_agree_in_every_order words
  obtain ⟨-, -, -, -, report⟩ := perm _ reordered
  have thirteen : ones [0x80000001, 7, 0xff] = 13 := by decide
  exact ⟨words, reordered, thirteen, byBits ▸ thirteen, report .computed (.int 0)⟩

end Battery

end SeedStream
