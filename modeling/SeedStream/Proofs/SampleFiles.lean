import SeedStream.Output.Files
import SeedStream.Proofs.ArrayFiles
import SeedStream.Proofs.FileReadBack

/-!
# Samples in files and back

A sample that was written in any format is read back as it was, from the bytes (`decode_encode`) and from the file
tree (`read_write`). Texts are read under either text format and with blanks put into them; rows of bytes are
read if and only if they make whole words, and no two rows of bytes are read as one sample.
-/

namespace SeedStream.Output

open Text

/-- The formats can read what each other writes: they are the same or both texts. -/
def Reads (reader writer : Format) : Prop :=
  reader = writer ∨ reader.isBinary = false ∧ writer.isBinary = false

theorem encode_of_textual {format : Format} (textual : format.isBinary = false) (ws : List Word) :
    encode format ws = encodeUtf8 (fileText format ws) := by
  cases format with
  | hex | dec => rfl
  | bin | npy => cases textual

theorem decode_bin [Memory] (bytes : List UInt8) :
    decode .bin bytes =
      match wordsOfBytes? bytes with
      | some ws => .ok ⟨[ws.length], ws⟩
      | none => .error (.value .partialWord) := rfl

/-- A sample is read from the bytes that it is written as. -/
theorem decode_encode [Memory] {reader writer : Format} (reads : Reads reader writer) {ws : List Word}
    (short : writer = .npy → ws.length < arrayLimit) : decode reader (encode writer ws) = .ok ⟨[ws.length], ws⟩ := by
  have text (reader writer : Format) (readerText : reader.isBinary = false) (writerText : writer.isBinary = false) :
      decode reader (encode writer ws) = .ok ⟨[ws.length], ws⟩ := by
    have whole := decode_padded readerText (Padded.refl (pieces '\n' (fileText writer ws)))
    rwa [joined_pieces, ← encode_of_textual writerText] at whole
  rcases reads with rfl | ⟨readerText, writerText⟩
  · cases reader with
    | hex | dec => exact text _ _ rfl rfl
    | bin => rw [encode, decode_bin, wordsOfBytes?_eq_some_iff.mpr rfl]
    | npy => exact Npy.decode_encode (short rfl)
  · exact text _ _ readerText writerText

/-- The path at which a sample stands that is written to a path. -/
def writtenPath (format : Format) (p : Path) : Path :=
  if format = .npy then arrayPath p else p

/-- A sample that was written is one that an array can hold, and its bytes are found where it stands. -/
theorem read_of_write {ws : List Word} {p q : Path} {format : Format} {t after : FileTree}
    (written : write ws p format t = (.ok q, after)) :
    ws.length < arrayLimit ∧ after.read (writtenPath format p) = .ok (encode format ws) := by
  have placed {file : Path} {reported : Except Failure Path}
      (put : place p file (encode format ws) reported t = (.ok q, after)) : after.read file = .ok (encode format ws) := by
    rw [place] at put
    split at put
    case h_1 => cases put
    case h_2 middle _ =>
      split at put
      case h_1 => cases put
      case h_2 wrote =>
        cases put
        exact FileTree.read_write wrote
  unfold write at written
  split at written
  case isTrue => cases written
  case isFalse short =>
    refine ⟨Nat.lt_of_not_le short, ?_⟩
    -- The path reported for an array file plays no part: it may differ from the one at which the file stands.
    cases format with
    | npy => exact placed written
    | hex | dec | bin => exact placed written

/-- A sample that was written to a path in a format is read from the place where it stands, in the same format or in
    the other text format; so it is from its bytes alone. Spaces and tabs around the lines of its text and blank
    lines between them do not change what is read. Rows of bytes are read as words exactly if their number is a
    multiple of four, and are then the bytes of the sample. -/
theorem sample_round_trip [Memory] :
    (∀ (ws : List Word) (writer reader : Format) (p q : Path) (t after : FileTree),
        write ws p writer t = (.ok q, after) → Reads reader writer →
          read (writtenPath writer p) reader after = .ok ⟨[ws.length], ws⟩) ∧
      (∀ (ws : List Word) (writer reader : Format), (writer = .npy → ws.length < arrayLimit) → Reads reader writer →
        decode reader (encode writer ws) = .ok ⟨[ws.length], ws⟩) ∧
      (∀ (ws : List Word) (writer reader : Format), writer.isBinary = false → reader.isBinary = false →
        encode writer ws = encodeUtf8 (fileText writer ws) ∧
          ∀ rows, Padded (pieces '\n' (fileText writer ws)) rows →
            decode reader (encodeUtf8 (joined '\n' rows)) = .ok ⟨[ws.length], ws⟩) ∧
      (∀ bytes : List UInt8, bytes.length % 4 = 0 →
        ∃ ws, decode .bin bytes = .ok ⟨[ws.length], ws⟩ ∧ encode .bin ws = bytes) ∧
      ∀ bytes : List UInt8, bytes.length % 4 ≠ 0 → decode .bin bytes = .error (.value .partialWord) := by
  refine ⟨fun ws writer reader p q t after written reads => ?_, fun ws writer reader short reads => ?_,
    fun ws writer reader writerText readerText => ⟨?_, fun rows padded => ?_⟩, fun bytes whole => ?_, fun bytes part => ?_⟩
  · obtain ⟨short, found⟩ := read_of_write written
    rw [read, found]
    exact decode_encode reads fun _ => short
  · exact decode_encode reads short
  · exact encode_of_textual writerText ws
  · exact decode_padded readerText padded
  · obtain ⟨ws, found⟩ := Option.isSome_iff_exists.mp ((isSome_wordsOfBytes? bytes).mpr whole)
    exact ⟨ws, by rw [decode_bin, found], wordsOfBytes?_eq_some_iff.mp found⟩
  · have wordless : wordsOfBytes? bytes = none :=
      Option.not_isSome_iff_eq_none.mp fun found => part ((isSome_wordsOfBytes? bytes).mp found)
    rw [decode_bin, wordless]

section

attribute [local instance] Memory.standard

/-- Two words in an array file whose name lacks its ending, in a folder that is not there yet; their hexadecimal
    lines, with a blank line, spaces and tabs put in, read as decimal ones; and rows of four and five bytes. -/
theorem sample_round_trip_spaced :
    ((write [7, 0xffffffff] (Path.ofText "out/sample") .npy ⟨Path.ofText "/", []⟩).1 = .ok (Path.ofText "out/sample.npy") ∧
        read (writtenPath .npy (Path.ofText "out/sample")) .npy
          (write [7, 0xffffffff] (Path.ofText "out/sample") .npy ⟨Path.ofText "/", []⟩).2 = .ok ⟨[2], [7, 0xffffffff]⟩) ∧
      Padded (pieces '\n' (fileText .hex [7, 0xffffffff]))
        ["\t".toList, " 0x00000007\t".toList, "0xFFFFFFFF ".toList, "".toList] ∧
      decode .dec (encodeUtf8 (joined '\n' ["\t".toList, " 0x00000007\t".toList, "0xFFFFFFFF ".toList, "".toList])) =
        .ok ⟨[2], [7, 0xffffffff]⟩ ∧
      (∃ ws, decode .bin [1, 2, 3, 4] = .ok ⟨[ws.length], ws⟩ ∧ encode .bin ws = [1, 2, 3, 4]) ∧
      decode .bin [1, 2, 3, 4, 5] = .error (.value .partialWord) := by
  obtain ⟨fromFile, -, spaced, whole, part⟩ := sample_round_trip
  have text : fileText .hex [7, 0xffffffff] = "0x00000007\n0xFFFFFFFF\n".toList := by
    have lines : [7, 0xffffffff].map (line (Format.hex == .dec)) = ["0x00000007".toList, "0xFFFFFFFF".toList] := by
      simp only [List.map_cons, List.map_nil, line, Word.hex_eq]
      rfl
    rw [fileText, lines]
    rfl
  have padded : Padded (pieces '\n' (fileText .hex [7, 0xffffffff]))
      ["\t".toList, " 0x00000007\t".toList, "0xFFFFFFFF ".toList, "".toList] := by
    rw [text]
    have tab : ∀ c ∈ ['\t'], isPad c = true := List.forall_mem_singleton.mpr rfl
    have space : ∀ c ∈ [' '], isPad c = true := List.forall_mem_singleton.mpr rfl
    refine .blank tab ?_
    refine @Padded.line [' '] "0x00000007".toList ['\t'] _ _ space tab ?_
    exact @Padded.line [] "0xFFFFFFFF".toList [' '] _ _ (List.forall_mem_nil _) space (.refl [[]])
  have reported : (write [7, 0xffffffff] (Path.ofText "out/sample") .npy ⟨Path.ofText "/", []⟩).1 =
      .ok (Path.ofText "out/sample.npy") := rfl
  exact ⟨⟨reported, fromFile _ _ _ _ _ _ _ (Prod.ext reported rfl) (.inl rfl)⟩, padded,
    (spaced _ .hex .dec rfl rfl).2 _ padded, whole [1, 2, 3, 4] rfl, part [1, 2, 3, 4, 5] (by decide)⟩

end

end SeedStream.Output
