import SeedStream.Proofs.Compression

/-!
# Digests block by block

A digest that absorbs bytes one after another holds the hash value of the whole blocks among them and the bytes
behind these (`Holds.absorb`), wherever the row was cut. With the padding behind the row nothing is left over, so
the digest of a row of bytes is the hash of its bits (`ofBytes_sha256`).
-/

namespace SeedStream

namespace Digest

/-! ## Absorbed bytes -/

/-- What a digest holds once a row is absorbed: the hash value of the row's whole blocks, and the bytes behind them. -/
structure Holds (d : Digest) (bytes : List UInt8) : Prop where
  length : d.length = bytes.length
  pending : d.pending.reverse = bytes.drop (64 * (bytes.length / 64))
  chain : d.chain.variables = SecureHash.value (BitRow.ofBytes bytes) (bytes.length / 64)

theorem holds_empty : Holds empty [] :=
  ⟨rfl, rfl, variables_initial⟩

theorem block_ofBytes (bytes : List UInt8) (i : Nat) :
    SecureHash.block (BitRow.ofBytes bytes) i = BitRow.ofBytes ((bytes.drop (64 * i)).take 64) := by
  rw [SecureHash.block, show 512 * i = 8 * (64 * i) by omega, BitRow.drop_ofBytes, BitRow.take_ofBytes 64]

/-- One more byte joins those behind the last block, which it may complete. -/
theorem Holds.push {d : Digest} {bytes : List UInt8} (holds : Holds d bytes) (b : UInt8) :
    Holds (d.push b) (bytes ++ [b]) := by
  have more : (bytes ++ [b]).length = bytes.length + 1 := List.length_append
  have behind : (b :: d.pending).reverse = (bytes ++ [b]).drop (64 * (bytes.length / 64)) := by
    rw [List.reverse_cons, holds.pending, List.drop_append_of_le_length (by omega)]
  have before : SecureHash.value (BitRow.ofBytes (bytes ++ [b])) (bytes.length / 64) = d.chain.variables := by
    rw [BitRow.ofBytes_append, SecureHash.value_append (by rw [BitRow.length_ofBytes]; omega), holds.chain]
  rw [Digest.push, holds.length]
  split
  -- The byte is the last of its block, which is compressed.
  case isTrue last =>
    have count : (bytes ++ [b]).length / 64 = bytes.length / 64 + 1 := by omega
    have full : ((b :: d.pending).reverse).length = 64 := by
      rw [behind, List.length_drop]
      omega
    refine ⟨more.symm, ?_, ?_⟩
    · rw [List.drop_eq_nil_of_le (by omega)]
      rfl
    · rw [variables_compress d.chain full, count, SecureHash.value, before, block_ofBytes, ← behind,
        List.take_of_length_le full.le]
  case isFalse inside =>
    have count : (bytes ++ [b]).length / 64 = bytes.length / 64 := by omega
    refine ⟨more.symm, ?_, ?_⟩
    · rw [count]
      exact behind
    · rw [count, before]

/-- Absorbing a row, of any length and from anywhere in a block. -/
theorem Holds.absorb {d : Digest} {bytes : List UInt8} (holds : Holds d bytes) (row : List UInt8) :
    Holds (d.absorb row) (bytes ++ row) := by
  induction row generalizing d bytes with
  | nil => rwa [List.append_nil]
  | cons b rest ih =>
    have whole := ih (holds.push b)
    rwa [List.append_assoc] at whole

/-! ## The padding -/

/-- The zeros behind a row of bytes: seven complete a byte, the others are bytes. -/
theorem zeros_eq (n : Nat) : SecureHash.zeros (8 * n) = 7 + 8 * ((119 - n % 64) % 64) := by
  rw [SecureHash.zeros, Nat.find_eq_iff]
  simp only [Nat.ModEq]
  constructor
  · omega
  · intro k fewer
    omega

theorem ofBytes_replicate_zero (n : Nat) : BitRow.ofBytes (List.replicate n 0) = List.replicate (8 * n) false := by
  induction n with
  | zero => rfl
  | succ n ih =>
    rw [List.replicate_succ, BitRow.ofBytes_cons, ih, Nat.mul_succ, Nat.add_comm, List.replicate_add]
    rfl

/-- The bytes of the padding are the bits that the standard adds. -/
theorem ofBytes_append_padding (bytes : List UInt8) :
    BitRow.ofBytes (bytes ++ padding bytes.length) = SecureHash.padded (BitRow.ofBytes bytes) := by
  rw [SecureHash.padded, padding, BitRow.ofBytes_append, BitRow.ofBytes_cons, BitRow.ofBytes_append,
    ofBytes_replicate_zero, BitRow.ofBytes_lengthBytes, BitRow.length_ofBytes, zeros_eq, List.replicate_add]
  rfl

/-! ## The digest -/

theorem ofBytes_words (v : Chain) : BitRow.ofBytes (v.words.flatMap wordBytes) = v.variables.bits := by
  have words (ws : List Word) :
      BitRow.ofBytes (ws.flatMap wordBytes) = ws.flatMap fun w => BitRow.ofNat 32 w.toNat := by
    induction ws with
    | nil => rfl
    | cons w rest ih =>
      rw [List.flatMap_cons, BitRow.ofBytes_append, BitRow.ofBytes_wordBytes, ih, List.flatMap_cons]
  exact words v.words

/-- A digest that holds a row ends in the hash of its bits. -/
theorem Holds.ofBytes_finish {d : Digest} {bytes : List UInt8} (holds : Holds d bytes) :
    BitRow.ofBytes d.finish = SecureHash.digest (BitRow.ofBytes bytes) := by
  have chain := (holds.absorb (padding bytes.length)).chain
  have count : (bytes ++ padding bytes.length).length / 64 =
      (SecureHash.padded (BitRow.ofBytes bytes)).length / 512 := by
    rw [← ofBytes_append_padding, BitRow.length_ofBytes]
    omega
  rw [ofBytes_append_padding, count] at chain
  rw [finish, holds.length, ofBytes_words, chain, SecureHash.digest]

/-- The digest of a row of bytes is the hash of its bits. -/
theorem ofBytes_sha256 (bytes : List UInt8) :
    BitRow.ofBytes (sha256 bytes) = SecureHash.digest (BitRow.ofBytes bytes) :=
  (holds_empty.absorb bytes).ofBytes_finish

theorem hexText_eq (bytes : List UInt8) : hexText bytes = SecureHash.hexText (BitRow.ofBytes bytes) := by
  have digit : ∀ d < 16, Text.hexDigit d = Nat.digitChar d := by decide
  rw [hexText, SecureHash.hexText]
  congr 1
  induction bytes with
  | nil => rfl
  | cons b rest ih =>
    have pair : Text.hexDigits 2 b.toNat = [Text.hexDigit (b.toNat / 16 % 16), Text.hexDigit (b.toNat % 16)] := rfl
    rw [List.flatMap_cons, ih, pair, digit _ (Nat.mod_lt _ (by decide)), digit _ (Nat.mod_lt _ (by decide)),
      BitRow.ofBytes_cons, show 8 = 4 + 4 from rfl, BitRow.ofNat_add, List.append_assoc,
      SecureHash.hexDigits_ofNat_append, SecureHash.hexDigits_ofNat_append]
    rfl

/-- A row that fills its block so far that the padding takes another one. -/
example : SecureHash.hexText (SecureHash.digest (BitRow.ofBytes
    (Text.encodeUtf8 "abcdbcdecdefdefgefghfghighijhijkijkljklmklmnlmnomnopnopq".toList))) =
      "248d6a61d20638b8e5c026930c3e6039a33ce45964ff2167f6ecedd419db06c1" := by
  rw [← ofBytes_sha256, ← hexText_eq]
  decide +kernel

end Digest

end SeedStream
