import SeedStream.Output.Codec
import SeedStream.Proofs.Digits

/-!
# Text files

A text file of ASCII characters is read as it was written (`decodeUtf8_encodeUtf8`), and cut into the lines that
were joined (`lines_joined`). Spaces and tabs around lines and lines of nothing else do not count, so a sample is
read from any rows that hold its lines in order (`decodeText_padded`).
-/

namespace SeedStream

namespace Text

/-! ## ASCII -/

theorem decodeFrom_charBytes {cs : List Char} (ascii : ∀ c ∈ cs, c.toNat < 0x80) (position : Nat) (done : List Char) :
    decodeFrom position 0 done (encodeUtf8 cs) = .ok (done.reverse ++ cs) := by
  induction cs generalizing position done with
  | nil => rw [encodeUtf8_nil, decodeFrom, List.append_nil]
  | cons c rest ih =>
    obtain ⟨first, others⟩ := List.forall_mem_cons.mp ascii
    have small : UInt8.ofNat c.toNat < 0x80 := by
      rw [UInt8.lt_iff_toNat_lt, UInt8.toNat_ofNat']
      have bound : (0x80 : UInt8).toNat = 0x80 := rfl
      omega
    have char : Char.ofNat (UInt8.ofNat c.toNat).toNat = c := by
      rw [UInt8.toNat_ofNat', Nat.mod_eq_of_lt (by omega), Char.ofNat_toNat]
    have bytes : encodeUtf8 (c :: rest) = UInt8.ofNat c.toNat :: encodeUtf8 rest := by
      rw [encodeUtf8, List.flatMap_cons, charBytes_ascii first, List.singleton_append]
      rfl
    have read : firstChar (UInt8.ofNat c.toNat) (encodeUtf8 rest) = .ok (c, 1) := by
      rw [firstChar.eq_def, if_pos small, char]
    rw [bytes, decodeFrom]
    simp only [read]
    rw [ih others, List.reverse_cons, List.append_assoc]
    rfl

theorem decodeUtf8_encodeUtf8 {cs : List Char} (ascii : ∀ c ∈ cs, c.toNat < 0x80) :
    decodeUtf8 (encodeUtf8 cs) = .ok cs :=
  decodeFrom_charBytes ascii 0 []

/-! ## Lines -/

theorem unifyNewlines_eq_self {cs : List Char} (without : '\r' ∉ cs) : unifyNewlines cs = cs := by
  induction cs with
  | nil => rfl
  | cons c rest ih =>
    rw [List.mem_cons, not_or] at without
    obtain ⟨first, others⟩ := without
    rw [unifyNewlines, ih others]
    · exact fun _ same => absurd same.symm first
    · exact fun same => absurd same.symm first

theorem linesFrom_append {cs : List Char} (noEnds : ∀ c ∈ cs, isLineEnd c = false) (line rest : List Char) :
    linesFrom line (cs ++ rest) = linesFrom (cs.reverse ++ line) rest := by
  induction cs generalizing line with
  | nil => rfl
  | cons c cs ih =>
    obtain ⟨first, others⟩ := List.forall_mem_cons.mp noEnds
    rw [List.cons_append, linesFrom, if_neg (by rw [first]; exact Bool.false_ne_true), ih others, List.reverse_cons,
      List.append_assoc, List.singleton_append]
    rintro _ same
    cases same
    cases first

/-- Rows joined by line feeds are the lines of the text, save that an empty one at the end does not count. -/
theorem lines_joined {rows : List (List Char)} (noEnds : ∀ row ∈ rows, ∀ c ∈ row, isLineEnd c = false) :
    rows = lines (joined '\n' rows) ∨ rows = lines (joined '\n' rows) ++ [[]] := by
  fun_induction joined '\n' rows with
  | case1 => exact .inl rfl
  | case2 row =>
    have read : lines row = if row.reverse.isEmpty then [] else [row] := by
      have whole := linesFrom_append (noEnds row List.mem_cons_self) [] []
      rw [List.append_nil, List.append_nil] at whole
      rw [lines, whole, linesFrom, List.reverse_reverse]
    cases row with
    | nil => exact .inr rfl
    | cons c rest =>
      rw [read, if_neg (by simp)]
      exact .inl rfl
  | case3 row rest more ih =>
    have read : lines (row ++ '\n' :: joined '\n' rest) = row :: lines (joined '\n' rest) := by
      rw [lines, linesFrom_append (noEnds row List.mem_cons_self), List.append_nil]
      have ending : isLineEnd '\n' = true := by decide
      rw [linesFrom, if_pos ending, List.reverse_reverse]
      · rfl
      · exact fun _ same => absurd same (by decide)
    rw [read]
    rcases ih fun row member => noEnds row (List.mem_cons_of_mem _ member) with whole | short
    · exact .inl (congrArg _ whole)
    · exact .inr (congrArg _ short)

/-! ## Blanks around lines -/

/-- A space or a tab. -/
def isPad (c : Char) : Bool :=
  c == ' ' || c == '\t'

/-- The rows come from others by spaces and tabs that are put around them and by rows of nothing else that are put
    between them. -/
inductive Padded : List (List Char) → List (List Char) → Prop
  | nil : Padded [] []
  | blank {row : List Char} {ls rows : List (List Char)} (pad : ∀ c ∈ row, isPad c = true) (rest : Padded ls rows) :
      Padded ls (row :: rows)
  | line {before l after : List Char} {ls rows : List (List Char)} (left : ∀ c ∈ before, isPad c = true)
      (right : ∀ c ∈ after, isPad c = true) (rest : Padded ls rows) : Padded (l :: ls) ((before ++ l ++ after) :: rows)

theorem Padded.refl (ls : List (List Char)) : Padded ls ls := by
  induction ls with
  | nil => exact .nil
  | cons l rest ih =>
    have row := @Padded.line [] l [] rest rest nofun nofun ih
    rwa [List.nil_append, List.append_nil] at row

variable {ls rows : List (List Char)}

/-- What holds of the characters of the lines, of a space and of a tab holds of all characters in the rows. -/
theorem Padded.forall_chars {P : Char → Prop} (padded : Padded ls rows) (space : P ' ') (tab : P '\t')
    (chars : ∀ l ∈ ls, ∀ c ∈ l, P c) : ∀ row ∈ rows, ∀ c ∈ row, P c := by
  have pads {cs : List Char} (pad : ∀ c ∈ cs, isPad c = true) : ∀ c ∈ cs, P c := by
    intro c member
    have blank := pad c member
    rw [isPad, Bool.or_eq_true, beq_iff_eq, beq_iff_eq] at blank
    rcases blank with rfl | rfl
    · exact space
    · exact tab
  induction padded with
  | nil => nofun
  | blank pad rest ih => exact List.forall_mem_cons.mpr ⟨pads pad, ih chars⟩
  | line left right rest ih =>
    obtain ⟨first, others⟩ := List.forall_mem_cons.mp chars
    refine List.forall_mem_cons.mpr ⟨fun c member => ?_, ih others⟩
    rcases List.mem_append.mp member with front | back
    · rcases List.mem_append.mp front with outside | inside
      · exact pads left c outside
      · exact first c inside
    · exact pads right c back

theorem strip_between {before l after : List Char} (left : ∀ c ∈ before, isPad c = true)
    (right : ∀ c ∈ after, isPad c = true) (solid : ∀ c ∈ l, isBlank c = false) :
    strip (ofChars (before ++ l ++ after)) = ofChars l := by
  have pads {cs : List Char} (pad : ∀ c ∈ cs, isPad c = true) :
      ∀ x ∈ ofChars cs, Letter.satisfies isBlank x = true := by
    intro x member
    obtain ⟨c, inside, rfl⟩ := List.mem_map.mp member
    have blank := pad c inside
    rw [isPad, Bool.or_eq_true, beq_iff_eq, beq_iff_eq] at blank
    rcases blank with rfl | rfl <;> rfl
  rw [ofChars_append, ofChars_append, strip, trim_between (pads left) (pads right)]
  intro x member
  obtain ⟨c, inside, rfl⟩ := List.mem_map.mp member
  exact solid c inside

/-- What is put around rows and between them does not count when blanks and blank rows do not. -/
theorem Padded.stripped (padded : Padded ls rows) (solid : ∀ l ∈ ls, ∀ c ∈ l, isBlank c = false) :
    (rows.map fun row => strip (ofChars row)).filter (· ≠ []) = (ls.map ofChars).filter (· ≠ []) := by
  induction padded with
  | nil => rfl
  | @blank row ls rows pad rest ih =>
    have empty : strip (ofChars row) = [] := by
      have whole := @strip_between row [] [] pad nofun nofun
      rwa [List.append_nil, List.append_nil] at whole
    rw [List.map_cons, empty, List.filter_cons_of_neg (by simp), ih solid]
  | @line before l after ls rows left right rest ih =>
    obtain ⟨first, others⟩ := List.forall_mem_cons.mp solid
    rw [List.map_cons, strip_between left right first, List.map_cons, List.filter_cons, List.filter_cons, ih others]

end Text

namespace Output

open Text

/-! ## Samples on lines -/

theorem line_proper (decimal : Bool) (w : Word) : line decimal w ≠ [] ∧ ∀ c ∈ line decimal w, c.isAlphanum = true := by
  cases decimal with
  | false =>
    rw [line, if_neg Bool.false_ne_true]
    refine ⟨?_, Word.isAlphanum_of_mem_hex w⟩
    rw [Word.hex_eq]
    exact List.cons_ne_nil _ _
  | true =>
    rw [line, if_pos rfl, Numeral.decimal_eq]
    refine ⟨fun empty => Numeral.digitsOf_ne_nil 10 w.toNat (List.map_eq_nil_iff.mp empty), ?_⟩
    exact Integer.isAlphanum_of_mem_map fun d member => by
      have := Numeral.lt_of_mem_digitsOf (by decide) member
      omega

theorem integerOfText_line (decimal : Bool) (w : Word) :
    Value.integerOfText .marked (ofChars (line decimal w)) = .ok (w.toNat : Int) := by
  have read : Integer.parse .marked (line decimal w) = .ok (w.toNat : Int) := by
    cases decimal with
    | false => exact Word.parse_hex w
    | true => exact Word.parse_decimal w
  rw [Value.integerOfText, chars_ofChars, read]

theorem plain_of_isAlphanum {c : Char} (word : c.isAlphanum = true) :
    c.toNat < 0x80 ∧ isBlank c = false ∧ isLineEnd c = false ∧ c ≠ '\r' := by
  have range := Integer.range_of_isAlphanum word
  refine ⟨by omega, ?_, ?_, ?_⟩
  · simp only [isBlank, Bool.or_eq_false_iff, Bool.and_eq_false_iff, decide_eq_false_iff_not, beq_eq_false_iff_ne]
    omega
  · simp only [isLineEnd, Bool.or_eq_false_iff, Bool.and_eq_false_iff, decide_eq_false_iff_not, beq_eq_false_iff_ne]
    omega
  · rintro rfl
    cases word

/-- Whatever blanks are put around the lines of a text of letters and digits and between them, the same lines hold
    a word. -/
theorem wordLines_padded {ls rows : List (List Char)} (padded : Padded ls rows)
    (words : ∀ l ∈ ls, ∀ c ∈ l, c.isAlphanum = true) :
    wordLines (joined '\n' rows) = (ls.map ofChars).filter (· ≠ []) := by
  have noEnds : ∀ row ∈ rows, ∀ c ∈ row, isLineEnd c = false :=
    padded.forall_chars rfl rfl fun l member c inside => (plain_of_isAlphanum (words l member c inside)).2.2.1
  have noReturn : ∀ c ∈ joined '\n' rows, c ≠ '\r' :=
    forall_mem_joined (by decide) (padded.forall_chars (by decide) (by decide) fun l member c inside =>
      (plain_of_isAlphanum (words l member c inside)).2.2.2)
  have stripped := padded.stripped fun l member c inside => (plain_of_isAlphanum (words l member c inside)).2.1
  rw [wordLines, unifyNewlines_eq_self fun member => noReturn _ member rfl]
  refine Eq.trans ?_ stripped
  -- An empty row at the end is no line, but it holds no word either.
  rcases lines_joined noEnds with whole | short
  · rw [← whole]
  · conv_rhs => rw [short]
    rw [List.map_append, List.filter_append]
    exact (List.append_nil _).symm

/-- The text that a text format writes for a sample. -/
def fileText (format : Format) (ws : List Word) : List Char :=
  textFile (ws.map (line (format == .dec)))

theorem textFile_eq_joined {ls : List (List Char)} (filled : ls ≠ []) : textFile ls = joined '\n' (ls ++ [[]]) := by
  have text (ls : List (List Char)) : joined '\n' (ls ++ [[]]) = ls.flatMap (· ++ ['\n']) := by
    induction ls with
    | nil => rfl
    | cons l rest ih =>
      rw [List.cons_append, joined, ih, List.flatMap_cons, List.append_assoc, List.singleton_append]
      exact fun empty => List.cons_ne_nil _ _ (List.append_eq_nil_iff.mp empty).2
  obtain ⟨l, rest, rfl⟩ := List.exists_cons_of_ne_nil filled
  rw [text]
  rfl

/-- The rows of the text of a sample are its lines and blank rows behind them. -/
theorem pieces_fileText (format : Format) (ws : List Word) :
    ∃ blanks, pieces '\n' (fileText format ws) = ws.map (line (format == .dec)) ++ List.replicate blanks [] := by
  cases ws with
  | nil => exact ⟨2, rfl⟩
  | cons w rest =>
    refine ⟨1, ?_⟩
    rw [fileText, textFile_eq_joined (by simp)]
    refine pieces_joined (List.cons_ne_nil _ _) (List.forall_mem_append.mpr ⟨fun row member => ?_, by simp⟩)
    obtain ⟨w, -, rfl⟩ := List.mem_map.mp member
    exact fun mark => absurd ((line_proper _ w).2 _ mark) (by decide)

theorem isAlphanum_of_mem_pieces {format : Format} {ws : List Word} :
    ∀ row ∈ pieces '\n' (fileText format ws), ∀ c ∈ row, c.isAlphanum = true := by
  obtain ⟨blanks, split⟩ := pieces_fileText format ws
  rw [split]
  refine List.forall_mem_append.mpr ⟨fun row member => ?_, fun row member => ?_⟩
  · obtain ⟨w, -, rfl⟩ := List.mem_map.mp member
    exact (line_proper _ w).2
  · rw [List.eq_of_mem_replicate member]
    nofun

theorem wordLines_fileText {format : Format} {ws : List Word} {rows : List (List Char)}
    (padded : Padded (pieces '\n' (fileText format ws)) rows) :
    wordLines (joined '\n' rows) = ws.map fun w => ofChars (line (format == .dec) w) := by
  obtain ⟨blanks, split⟩ := pieces_fileText format ws
  have dropped : ((List.replicate blanks []).map ofChars).filter (· ≠ []) = [] := by
    rw [List.map_replicate, List.filter_replicate]
    rfl
  rw [wordLines_padded padded isAlphanum_of_mem_pieces, split, List.map_append, List.filter_append, dropped, List.append_nil,
    List.map_map]
  refine List.filter_eq_self.mpr fun t member => ?_
  obtain ⟨w, -, rfl⟩ := List.mem_map.mp member
  exact decide_eq_true fun empty => (line_proper _ w).1 (List.map_eq_nil_iff.mp empty)

theorem decodeText_fileText {format : Format} {ws : List Word} {rows : List (List Char)}
    (padded : Padded (pieces '\n' (fileText format ws)) rows) : decodeText (joined '\n' rows) = .ok ws := by
  have numbers : (ws.map fun w => ofChars (line (format == .dec) w)).mapM (Value.integerOfText .marked) =
      .ok (ws.map fun w => (w.toNat : Int)) :=
    Value.mapM_map_eq_ok fun w _ => integerOfText_line _ w
  have words : (ws.map fun w => (w.toNat : Int)).mapM (fun n => (Value.int n).asWordNumber) =
      .ok (ws.map fun w => (w.toNat : Int)) :=
    Value.mapM_map_eq_ok fun w _ => Value.asWordNumber_int (by have := w.toNat_lt; omega)
  have back : (ws.map fun w => (w.toNat : Int)).map Word.ofInt = ws := by
    rw [List.map_map]
    exact List.map_id'' Word.ofInt_toNat ws
  rw [decodeText, wordLines_fileText padded, numbers]
  change ((ws.map fun w => (w.toNat : Int)).mapM fun n => (Value.int n).asWordNumber).map (List.map Word.ofInt) = _
  rw [words]
  exact congrArg Except.ok back

/-- A sample is read from its text under either of the two text formats, also when blanks are put around its lines
    and between them. -/
theorem decode_padded [Memory] {format other : Format} (textual : other.isBinary = false) {ws : List Word}
    {rows : List (List Char)} (padded : Padded (pieces '\n' (fileText format ws)) rows) :
    decode other (encodeUtf8 (joined '\n' rows)) = .ok ⟨[ws.length], ws⟩ := by
  have ascii : ∀ c ∈ joined '\n' rows, c.toNat < 0x80 := by
    exact forall_mem_joined (by decide) (padded.forall_chars (by decide) (by decide) fun l member c inside =>
      (plain_of_isAlphanum (isAlphanum_of_mem_pieces l member c inside)).1)
  have text := decodeText_fileText padded
  cases other with
  | hex | dec =>
    simp only [decode, decodeUtf8_encodeUtf8 ascii, text]
    rfl
  | bin | npy => cases textual

end Output

end SeedStream
