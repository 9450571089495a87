import SeedStream.Output.Npy
import SeedStream.Proofs.ByteFiles
import SeedStream.Proofs.HeaderText

/-!
# Array files

An array file holds the row of words that it was written for (`Npy.decode_encode`). Its header has the same length
whatever the number of words is, so the items begin at one place, and there are as many of them as it says.
-/

namespace SeedStream.Npy

open Literal Numeral

/-! ## The header -/

/-- The blanks bring every header to the same length. -/
theorem paddedHeader_eq {n : Nat} (few : (decimal n).length ≤ growthRoom) :
    ∃ m, paddedHeader n = blankedHeader n m ∧ (paddedHeader n).length = 118 := by
  have start : headerStart.length = 51 := rfl
  have tail : ",), \x7d".toList.length = 5 := rfl
  have length : (headerText n ++ List.replicate (growthRoom - (decimal n).length) ' ').length = 77 := by
    simp only [headerText, List.length_append, List.length_replicate, start, tail]
    rw [growthRoom] at few ⊢
    omega
  refine ⟨growthRoom - (decimal n).length + 40, ?_, ?_⟩
  · rw [paddedHeader, length, blankedHeader, List.replicate_add]
    simp only [List.append_assoc]
  · rw [paddedHeader, List.length_append, List.length_append, length]
    rfl

theorem part_append {name : String} {size : Nat} {taken : List UInt8} (length : taken.length = size)
    (rest : List UInt8) :
    part name size (taken ++ rest) = .ok (taken, rest) := by
  rw [part, List.take_left' length, List.drop_left' length, if_pos length]

/-- An array of less words than an array may have has a numeral that fits into its header. -/
theorem length_decimal_le {n : Nat} (small : n < arrayLimit) : (decimal n).length ≤ 19 := by
  rw [decimal_eq, List.length_map]
  exact length_digitsOf_le (by decide) (by decide) (Nat.lt_trans small (by decide))

/-- The bytes of the header of a row of words. -/
def headerBytes (n : Nat) : List UInt8 :=
  (paddedHeader n).map fun c => UInt8.ofNat c.toNat

theorem headerChars_headerBytes {n : Nat} (few : (decimal n).length ≤ growthRoom) :
    headerChars [1, 0] (headerBytes n) = .ok (paddedHeader n) := by
  obtain ⟨m, text, -⟩ := paddedHeader_eq few
  rw [headerChars, if_neg (by decide), headerBytes, List.map_map]
  refine congrArg Except.ok ((List.map_congr_left fun c member => ?_).trans (List.map_id _))
  rw [text] at member
  have small : c.toNat < 256 := by
    rcases shown_of_mem_header member with rfl | range
    · decide
    · omega
  rw [Function.comp_apply, UInt8.toNat_ofNat', Nat.mod_eq_of_lt small, Char.ofNat_toNat]
  rfl

/-- The header of a row of words is read from the start of its file. -/
theorem header_encode {ws : List Word} (small : ws.length < arrayLimit) :
    header (encode ws) = .ok (⟨.number ⟨.natural, 4, false⟩, false, [.int ws.length]⟩, ws.flatMap Word.bytes) := by
  have digits := length_decimal_le small
  have few := Nat.le_trans digits (show 19 ≤ growthRoom by decide)
  obtain ⟨m, text, length⟩ := paddedHeader_eq few
  have bytes : encode ws = mark ++ [1, 0] ++ ([118, 0] ++ (headerBytes ws.length ++ ws.flatMap Word.bytes)) := by
    rw [encode, length]
    simp only [List.append_assoc]
    rfl
  have start : part "magic string" 8 (encode ws) =
      .ok (mark ++ [1, 0], [118, 0] ++ (headerBytes ws.length ++ ws.flatMap Word.bytes)) := by
    rw [bytes]
    exact part_append (show (mark ++ [1, 0] : List UInt8).length = 8 from rfl) _
  have size : part "array header length" 2 ([118, 0] ++ (headerBytes ws.length ++ ws.flatMap Word.bytes)) =
      .ok ([118, 0], headerBytes ws.length ++ ws.flatMap Word.bytes) :=
    part_append (show ([118, 0] : List UInt8).length = 2 from rfl) _
  have whole : part "array header" 118 (headerBytes ws.length ++ ws.flatMap Word.bytes) =
      .ok (headerBytes ws.length, ws.flatMap Word.bytes) := part_append (by rw [headerBytes, List.length_map, length]) _
  have version : (mark ++ [1, 0] : List UInt8).drop 6 = [1, 0] := rfl
  have number : ItemType.bytesNumber [118, 0] = 118 := rfl
  have read (older : Bool) : Header.ofText older (paddedHeader ws.length) =
      .ok ⟨.number ⟨.natural, 4, false⟩, false, [.int ws.length]⟩ := by
    rw [text, ofText_header (Nat.le_trans digits (by decide))]
  -- The parts of the file in the order in which they are taken: the mark, the size of the header, the header.
  rw [header, start]
  simp only [bind, Except.bind, version, ne_eq, not_true_eq_false, false_and, if_false, if_true, size, number, whole,
    headerChars_headerBytes few, length, read]
  rfl

/-! ## The items -/

theorem words_flatMap (ws : List Word) :
    ItemType.words (.number ⟨.natural, 4, false⟩) ws.length (ws.flatMap Word.bytes) = .ok ws := by
  induction ws with
  | nil => rfl
  | cons w rest ih =>
    have size : ItemType.size (.number ⟨.natural, 4, false⟩) = 4 := rfl
    have word : ItemType.word (.number ⟨.natural, 4, false⟩) w.bytes = .ok w := by
      have number : Word.ofInt (ItemType.bytesNumber w.bytes) = w := by rw [Word.bytesNumber_bytes, Word.ofInt_toNat]
      exact congrArg Except.ok number
    have length : w.bytes.length = 4 := rfl
    rw [List.length_cons, List.flatMap_cons, ItemType.words, size, List.take_left' length, List.drop_left' length, word,
      ih]
    rfl

theorem length_flatMap_bytes (ws : List Word) : (ws.flatMap Word.bytes).length = 4 * ws.length := by
  induction ws with
  | nil => rfl
  | cons w rest ih =>
    rw [List.flatMap_cons, List.length_append, ih, List.length_cons, show w.bytes.length = 4 from rfl]
    omega

theorem itemCount_singleton {n : Nat} (small : n < arrayLimit) : itemCount [(n : Int)] = .ok n := by
  have limit : arrayLimit = 0x8000000000000000 := rfl
  have long : ([(n : Int)].any fun i => !Value.isLong i) = false := by
    simp only [List.any_cons, List.any_nil, Value.isLong, Bool.or_false, Bool.not_eq_false', Bool.and_eq_true,
      decide_eq_true_eq]
    omega
  have lengths : [(n : Int)].all Shape.isLength = true := by
    simp only [List.all_cons, List.all_nil, Shape.isLength, Bool.and_true, Bool.and_eq_true, decide_eq_true_eq]
    omega
  have word : machineInt (1 * n) = n := by
    rw [machineInt, Int.one_mul]
    exact Int.bmod_eq_of_le (by omega) (by omega)
  rw [itemCount, machineLengths, long, if_neg Bool.false_ne_true, lengths, if_pos rfl]
  simp only [bind, Except.bind, pure, Except.pure, List.foldl_cons, List.foldl_nil, word]

theorem itemsRead_flatMap [Memory] (ws : List Word) :
    itemsRead (.number ⟨.natural, 4, false⟩) ws.length (ws.flatMap Word.bytes).length = .ok ws.length := by
  have size : ItemType.size (.number ⟨.natural, 4, false⟩) = 4 := rfl
  have quotient : 4 * ws.length / 4 = ws.length := Nat.mul_div_cancel_left _ (by decide)
  rw [itemsRead, size, length_flatMap_bytes, if_neg (by decide), quotient]
  dsimp only
  rw [if_neg (by omega), if_neg (by omega), Int.toNat_natCast]

theorem isLength_natCast {n : Nat} (small : n < arrayLimit) : Shape.isLength n = true := by
  have limit : arrayLimit = 0x8000000000000000 := rfl
  simp only [Shape.isLength, Bool.and_eq_true, decide_eq_true_eq]
  omega

theorem lengthsOf_singleton {n : Nat} (small : n < arrayLimit) : Shape.lengthsOf [.int n] = .ok [(n : Int)] := by
  have length : Shape.lengthOf (.int n) = .ok (n : Int) := by
    rw [Shape.lengthOf, if_pos (isLength_natCast small)]
  rw [Shape.lengthsOf, if_neg (by rw [List.length_singleton]; decide), List.mapM_cons, length]
  rfl

theorem fill_singleton {n : Nat} (small : n < arrayLimit) : Shape.fill n [(n : Int)] = .ok [n] := by
  have known : Shape.known n [(n : Int)] = .ok (n, false) := by
    rw [Shape.known, Shape.known.go, if_neg (by omega), if_neg (by omega), Nat.one_mul, Int.toNat_natCast,
      Shape.known.go]
  rw [Shape.fill, known]
  simp only [bind, Except.bind, Bool.false_eq_true, if_false, if_true, List.map_cons, List.map_nil, Int.toNat_natCast]

theorem filledShape_of_row {h : Header} {n : Nat} (small : n < arrayLimit) (row : h.shape = [.int n])
    (order : h.firstFastest = false) : filledShape h n = .ok [n] := by
  have turned : ([Literal.int n].map lengthValue) = [.int n] := rfl
  simp only [filledShape, order, Bool.false_eq_true, if_false, row, turned, lengthsOf_singleton small, bind, Except.bind,
    fill_singleton small]
  rfl

theorem decodeItems_of_ok [Memory] {h : Header} {bytes : List UInt8} {count : Int} {n : Nat} {shape : List Nat}
    {ws : List Word} (counted : itemCount (h.shape.filterMap Literal.integer?) = .ok count) (plain : h.items.hasObjects = false)
    (single : h.items.flattened = (h.items, [])) (there : itemsRead h.items count bytes.length = .ok n)
    (all : (n : Int) = count) (filled : filledShape h n = .ok shape) (checked : h.items.checkWords = .ok ())
    (words : h.items.words n bytes = .ok ws) (order : h.firstFastest = false) :
    decodeItems h bytes = .ok ⟨shape, ws⟩ := by
  have got : n * Shape.size [] = n := Nat.mul_one n
  simp only [decodeItems, bind, Except.bind, counted, plain, single, there, got, all, ne_eq, not_true_eq_false,
    Bool.false_eq_true, if_false, filled, checked, words, order]
  rfl

theorem decodeItems_flatMap [Memory] {ws : List Word} (small : ws.length < arrayLimit) :
    decodeItems ⟨.number ⟨.natural, 4, false⟩, false, [.int ws.length]⟩ (ws.flatMap Word.bytes) =
      .ok ⟨[ws.length], ws⟩ :=
  decodeItems_of_ok (itemCount_singleton small) rfl rfl (itemsRead_flatMap ws) rfl (filledShape_of_row small rfl rfl) rfl
    (words_flatMap ws) rfl

theorem decode_encode [Memory] {ws : List Word} (small : ws.length < arrayLimit) :
    decode (encode ws) = .ok ⟨[ws.length], ws⟩ := by
  obtain ⟨rest, bytes⟩ : ∃ rest, encode ws = mark ++ rest := by
    rw [encode]
    simp only [List.append_assoc]
    exact ⟨_, rfl⟩
  -- The first bytes alone tell an array file from an archive.
  have header := header_encode small
  rw [bytes] at header
  have archive : isArchive (mark ++ rest) = false := rfl
  have start : (mark ++ rest).take 6 = mark := rfl
  have full : (mark ++ rest).isEmpty = false := rfl
  simp only [decode, bytes, full, archive, start, header, bind, Except.bind, Bool.false_eq_true, if_false, ne_eq,
    not_true_eq_false]
  exact decodeItems_flatMap small

end SeedStream.Npy
