import SeedStream.CommandLine.Commands
import SeedStream.Proofs.Results

/-!
# Words of a command line

What each option of a command keeps of a record, a command line keeps of it (`parseFlags_keeps`), so what no
option of `generate` or `stats` sets is not set by its words (`ofGenerate_of_parse`, `ofStats_of_parse`). The seed,
the count and the format may stand behind their options in any way that the readers of numbers and choices accept
(`parse_generateLine`).
-/

namespace SeedStream.CommandLine

/-! ## Options among the words -/

section

variable {α : Type} {flags : List (Flag α)}

theorem mem_of_mem_named {n : String} {f : Flag α} (member : (n, f) ∈ named flags) : f ∈ flags := by
  obtain ⟨g, inside, found⟩ := List.mem_flatMap.mp member
  obtain ⟨_, _, same⟩ := List.mem_map.mp found
  cases same
  exact inside

theorem mem_of_findFlag? {t : Text} {found : String × Flag α} (find : findFlag? flags t = some found) :
    found.2 ∈ flags :=
  mem_of_mem_named (List.mem_of_find?_eq_some find)

theorem mem_of_mem_candidates {t : Text} {n name : String} {f : Flag α} {attached : Option Text}
    (member : (n, .flag f name attached) ∈ candidates flags t) : f ∈ flags := by
  rw [candidates] at member
  split at member
  all_goals
    obtain ⟨⟨m, g⟩, inside, found⟩ := List.mem_filterMap.mp member
    simp only [Option.ite_none_right_eq_some, Option.some.injEq, Prod.mk.injEq, Token.flag.injEq] at found
  · obtain ⟨-, -, rfl, -⟩ := found
    exact mem_of_mem_named inside
  · split at found
    · cases found
      exact mem_of_mem_named inside
    · simp only [Option.ite_none_right_eq_some, Option.some.injEq, Prod.mk.injEq, Token.flag.injEq] at found
      obtain ⟨-, -, rfl, -⟩ := found
      exact mem_of_mem_named inside

theorem mem_of_readInexact {word : Text} {f : Flag α} {name : String} {attached : Option Text}
    (read : readInexact flags word = .ok (.flag f name attached)) : f ∈ flags := by
  rw [readInexact] at read
  split at read
  case h_1 one single =>
    obtain ⟨n, token⟩ := one
    cases read
    exact mem_of_mem_candidates (single ▸ List.mem_singleton_self _)
  case h_2 => split at read <;> cases read
  case h_3 => cases read

theorem mem_of_readWord {word : Text} {f : Flag α} {name : String} {attached : Option Text}
    (read : readWord flags word = .ok (.flag f name attached)) : f ∈ flags := by
  rw [readWord] at read
  split at read
  · cases read
  · split at read
    case h_1 found exact =>
      cases read
      exact mem_of_findFlag? exact
    case h_2 =>
      split at read
      · cases read
      · split at read
        · split at read
          case h_1 found exact =>
            cases read
            exact mem_of_findFlag? exact
          case h_2 => exact mem_of_readInexact read
        · exact mem_of_readInexact read

theorem mem_of_readWords {words : List Text} {tokens : List (Text × Token α)} (read : readWords flags words = .ok tokens)
    {word : Text} {f : Flag α} {name : String} {attached : Option Text}
    (member : (word, .flag f name attached) ∈ tokens) : f ∈ flags := by
  induction words generalizing tokens with
  | nil =>
    cases read
    cases member
  | cons first rest ih =>
    rw [readWords] at read
    split at read
    · cases read
      simp at member
    · obtain ⟨token, one, more⟩ := bind_eq_ok_iff.mp read
      obtain ⟨later, others, same⟩ := bind_eq_ok_iff.mp more
      cases same
      rcases List.mem_cons.mp member with here | behind
      · cases here
        exact mem_of_readWord one
      · exact ih others behind

/-! ## What options keep -/

/-- Whatever the option is given, it keeps a property of the record. -/
def Flag.Keeps (P : α → Prop) (f : Flag α) : Prop :=
  ∀ take ∈ f.take, ∀ given record after, take given record = .ok after → P record → P after

variable {P : α → Prop}

theorem Flag.Keeps.help : (Flag.help : Flag α).Keeps P := nofun

theorem Flag.Keeps.value {β : Type} {name : String} {read : Text → Except ValueProblem β} {set : Given β → α → α}
    (change : ∀ given record, P record → P (set given record)) : (valueFlag name read set).Keeps P := by
  rintro _ ⟨⟩ given record after done kept
  cases given with
  | emptied =>
    cases done
    exact change _ _ kept
  | value text =>
    obtain ⟨b, -, rfl⟩ := map_eq_ok_iff.mp done
    exact change _ _ kept

/-- A path that is set has a text that is not empty. -/
theorem Flag.Keeps.path {name : String} {set : Option Path → α → α}
    (change : ∀ path : Option Path, (∀ p ∈ path, ∃ t, t ≠ [] ∧ p = Path.ofText t) →
      ∀ record, P record → P (set path record)) : (pathFlag name set).Keeps P := by
  refine Flag.Keeps.value fun given record kept => ?_
  dsimp only
  by_cases empty : (given.value?.getD []).isEmpty
  · rw [if_pos empty]
    exact change none nofun record kept
  · rw [if_neg empty]
    refine change (some _) ?_ record kept
    rintro _ ⟨⟩
    exact ⟨_, fun bare => empty (List.isEmpty_iff.mpr bare), rfl⟩

theorem Flag.Keeps.give {f : Flag α} (keeps : f.Keeps P) {take : Given Text → α → Except ValueProblem α}
    (takes : f.take = some take) {given : Given Text} {record after : α} (done : give f take given record = .ok after)
    (kept : P record) : P after :=
  keeps take takes given record after (mapError_eq_ok_iff.mp done) kept

theorem filled_of_leave {word : Text} {p : Parsed α} {record : α} {left : List Text}
    (h : Parsed.leave word p = .filled record left) : ∃ left', p = .filled record left' := by
  cases p with
  | help => cases h
  | filled r l =>
    cases h
    exact ⟨l, rfl⟩

/-- What every option among the words keeps of a record, the record keeps when it is filled. -/
theorem fill_keeps {record : α} {tokens : List (Text × Token α)}
    (keeps : ∀ word f name attached, (word, .flag f name attached) ∈ tokens → f.Keeps P) (start : P record)
    {filled : α} {left : List Text} (result : fill record tokens = .ok (.filled filled left)) : P filled := by
  -- One case for each way in which the next word is taken; a value behind an option is taken with it.
  fun_induction fill record tokens generalizing left with
  | case1 record =>
    cases result
    exact start
  | case2 record word f name rest attached none =>
    obtain ⟨_, -, same⟩ := map_eq_ok_iff.mp result
    cases same
  | case3 record word f name rest take attached takes after done ih =>
    have first := keeps word f name _ List.mem_cons_self
    exact ih (fun w g n a member => keeps w g n a (List.mem_cons_of_mem _ member)) (first.give takes done start) result
  | case4 => cases result
  | case5 record word f name take takes text rest after done ih =>
    have first := keeps word f name _ List.mem_cons_self
    exact ih (fun w g n a member => keeps w g n a (List.mem_cons_of_mem _ (List.mem_cons_of_mem _ member)))
      (first.give takes done start) result
  | case6 => cases result
  | case7 => cases result
  | case8 record word token rest plain ih =>
    obtain ⟨p, others, left⟩ := map_eq_ok_iff.mp result
    obtain ⟨_, rfl⟩ := filled_of_leave left
    exact ih (fun w g n a member => keeps w g n a (List.mem_cons_of_mem _ member)) start others

/-- What each option of a command keeps of a record, a command line keeps of it. -/
theorem parseFlags_keeps (keeps : ∀ f ∈ flags, f.Keeps P) {record filled : α} {words left : List Text} (start : P record)
    (result : parseFlags flags record words = .ok (.filled filled left)) : P filled := by
  obtain ⟨tokens, read, filling⟩ := bind_eq_ok_iff.mp result
  exact fill_keeps (fun w f n a member => keeps f (mem_of_readWords read member)) start filling

end

/-! ## The commands `generate` and `stats` -/

/-- A command that a command line leads to is read from the name of the command and the words behind it. -/
theorem parseCommand_of_parse {words : List Text} {c : Command} (parsed : parse words = .ok (.command c)) :
    ∃ name behind left, parseCommand name behind = .ok (.filled c left) := by
  rw [parse] at parsed
  split at parsed
  case h_1 => cases parsed
  case h_2 => cases parsed
  case h_3 before name behind _ =>
    obtain ⟨p, result, leads⟩ := bind_eq_ok_iff.mp parsed
    split at leads
    case h_1 => cases leads
    case h_2 command left =>
      dsimp only at leads
      split at leads
      case isFalse => cases leads
      case isTrue =>
        cases leads
        exact ⟨name, behind, left, result⟩

/-- The options of `generate` and of `stats` are read from the words behind the name of the command. -/
theorem parseFlags_of_parseCommand {name : Text} {behind left : List Text} {c : Command}
    (result : parseCommand name behind = .ok (.filled c left)) :
    (∀ f, c = .generate f → parseFlags generateFlags .none behind = .ok (.filled f left)) ∧
      ∀ f, c = .stats f → parseFlags statsFlags .none behind = .ok (.filled f left) := by
  rw [parseCommand] at result
  -- Of the five outcomes only the command's own options make its record.
  split at result
  case h_5 => cases result
  all_goals
    dsimp only at result
    split at result <;> cases result
    refine ⟨?_, ?_⟩
    all_goals
      rintro f ⟨⟩
      try assumption

/-- What the options of `generate` leave as it is, and that a path among them has a text. -/
structure Flags.OfGenerate (f : Flags) : Prop where
  samples : f.samples = .none
  alpha : f.alpha = .none
  output : ∀ p ∈ f.output, ∃ t, t ≠ [] ∧ p = Path.ofText t

/-- What the options of `stats` leave as it is. -/
structure Flags.OfStats (f : Flags) : Prop where
  count : f.count = .none
  format : f.format = .none
  output : f.output = .none

theorem ofGenerate_of_parse {words : List Text} {f : Flags} (parsed : parse words = .ok (.command (.generate f))) :
    f.OfGenerate := by
  obtain ⟨name, behind, left, result⟩ := parseCommand_of_parse parsed
  have start : Flags.none.OfGenerate := ⟨rfl, rfl, by rintro p ⟨⟩⟩
  refine parseFlags_keeps (P := Flags.OfGenerate) ?_ start ((parseFlags_of_parseCommand result).1 f rfl)
  have other {β : Type} {name : String} {read : Text → Except ValueProblem β} {set : Given β → Flags → Flags}
      (same : ∀ given f, (set given f).samples = f.samples ∧ (set given f).alpha = f.alpha ∧
        (set given f).output = f.output) : (valueFlag name read set).Keeps Flags.OfGenerate := by
    refine Flag.Keeps.value fun given f kept => ?_
    obtain ⟨samples, alpha, output⟩ := same given f
    exact ⟨samples.trans kept.samples, alpha.trans kept.alpha, output ▸ kept.output⟩
  simp only [generateFlags, List.forall_mem_cons]
  exact ⟨Flag.Keeps.help, other fun _ _ => ⟨rfl, rfl, rfl⟩, other fun _ _ => ⟨rfl, rfl, rfl⟩,
    other fun _ _ => ⟨rfl, rfl, rfl⟩, other fun _ _ => ⟨rfl, rfl, rfl⟩,
    Flag.Keeps.path fun _ named _ kept => ⟨kept.samples, kept.alpha, named⟩, other fun _ _ => ⟨rfl, rfl, rfl⟩,
    List.forall_mem_nil _⟩

theorem ofStats_of_parse {words : List Text} {f : Flags} (parsed : parse words = .ok (.command (.stats f))) :
    f.OfStats := by
  obtain ⟨name, behind, left, result⟩ := parseCommand_of_parse parsed
  refine parseFlags_keeps (P := Flags.OfStats) ?_ ⟨rfl, rfl, rfl⟩ ((parseFlags_of_parseCommand result).2 f rfl)
  have other {β : Type} {name : String} {read : Text → Except ValueProblem β} {set : Given β → Flags → Flags}
      (same : ∀ given f, (set given f).count = f.count ∧ (set given f).format = f.format ∧
        (set given f).output = f.output) : (valueFlag name read set).Keeps Flags.OfStats := by
    refine Flag.Keeps.value fun given f kept => ?_
    obtain ⟨count, format, output⟩ := same given f
    exact ⟨count.trans kept.count, format.trans kept.format, output.trans kept.output⟩
  simp only [statsFlags, List.forall_mem_cons]
  exact ⟨Flag.Keeps.help, other fun _ _ => ⟨rfl, rfl, rfl⟩, other fun _ _ => ⟨rfl, rfl, rfl⟩,
    other fun _ _ => ⟨rfl, rfl, rfl⟩, other fun _ _ => ⟨rfl, rfl, rfl⟩, other fun _ _ => ⟨rfl, rfl, rfl⟩,
    other fun _ _ => ⟨rfl, rfl, rfl⟩, List.forall_mem_nil _⟩

/-! ## A command line for every seed, count and format -/

section

variable {α : Type}

/-- The option takes a text by a change of the record. -/
def Flag.Takes (f : Flag α) (text : Text) (change : α → α) : Prop :=
  text ≠ [dash, dash] ∧ ∃ take, f.take = some take ∧ ∀ record, take (.value text) record = .ok (change record)

theorem fill_of_takes {f : Flag α} {text : Text} {change : α → α} (takes : f.Takes text change) (word : Text)
    (name : String) (record : α) (rest : List (Text × Token α)) :
    fill record ((word, .flag f name (some text)) :: rest) = fill (change record) rest := by
  obtain ⟨proper, take, has, changes⟩ := takes
  have given : give f take (givenOf text) record = .ok (change record) := by
    rw [give, givenOf, if_neg proper, changes]
    rfl
  rw [fill.eq_def]
  simp only [has, given]

theorem Flag.Takes.integer {name kind : String} {spelling : Integer.Spelling} {set : Given Int → α → α} {text : Text}
    {i : Int} (read : Integer.parse spelling text.chars = .ok i) :
    (integerFlag name kind spelling set).Takes text (set (.value i)) := by
  refine ⟨?_, _, rfl, fun record => ?_⟩
  · rintro rfl
    cases spelling <;> cases read
  · simp only [read]
    rfl

theorem Flag.Takes.choice {β : Type} {name : String} {choices : List (String × β)} {set : Given β → α → α} {text : Text}
    (proper : text ≠ [dash, dash]) {c : String × β}
    (find : choices.find? (fun c => Text.ofString c.1 == text) = some c) :
    (choiceFlag name choices set).Takes text (set (.value c.2)) := by
  refine ⟨proper, _, rfl, fun record => ?_⟩
  simp only [find]
  rfl

end

/-- A word that gives an option a value. -/
def assigned (name : String) (value : Text) : Text :=
  Text.ofString name ++ equalsSign :: value

/-- A command line that asks for words and perhaps names a source. -/
def generateLine (seed count : Text) (format : Format) (source : Option SourceName) : List Text :=
  Text.ofString "generate" :: assigned "--seed" seed :: assigned "--count" count ::
    assigned "--format" (Text.ofString format.text) ::
    (source.map fun n => assigned "--source" (Text.ofString n.text)).toList

/-- The options that such a command line gives. -/
def Flags.asking (seed count : Int) (format : Format) (source : Option SourceName) : Flags :=
  { Flags.none with
    seed := some (.value seed), count := some (.value count), format := some (.value format)
    source := source.map .value }

theorem parseFlags_generateLine {seedText countText : Text} {seed count : Int}
    (seedRead : Integer.parse .marked seedText.chars = .ok seed)
    (countRead : Integer.parse .plain countText.chars = .ok count) (format : Format) (source : Option SourceName) :
    parseFlags generateFlags .none (generateLine seedText countText format source).tail =
      .ok (.filled (.asking seed count format source) []) := by
  have seedTakes : seedFlag.Takes seedText fun f => { f with seed := some (.value seed) } := .integer seedRead
  have countTakes : countFlag.Takes countText fun f => { f with count := some (.value count) } := .integer countRead
  have formatTakes : formatFlag.Takes (Text.ofString format.text) fun f => { f with format := some (.value format) } := by
    have proper : Text.ofString format.text ≠ [dash, dash] := by cases format <;> decide
    have find : ((Format.all.map fun x => (x.text, x)).find? fun c => Text.ofString c.1 == Text.ofString format.text) =
        some (format.text, format) := by cases format <;> rfl
    exact .choice proper find
  cases source with
  | none =>
    have read : readWords generateFlags (generateLine seedText countText format none).tail =
        .ok [(assigned "--seed" seedText, .flag seedFlag "--seed" (some seedText)),
          (assigned "--count" countText, .flag countFlag "--count" (some countText)),
          (assigned "--format" format.text, .flag formatFlag "--format" (some (Text.ofString format.text)))] := rfl
    rw [parseFlags, read]
    change fill _ _ = _
    rw [fill_of_takes seedTakes, fill_of_takes countTakes, fill_of_takes formatTakes]
    rfl
  | some name =>
    have sourceTakes : sourceFlag.Takes (Text.ofString name.text) fun f => { f with source := some (.value name) } := by
      have proper : Text.ofString name.text ≠ [dash, dash] := by cases name <;> decide
      have find : ((SourceName.all.map fun n => (n.text, n)).find? fun c => Text.ofString c.1 == Text.ofString name.text) =
          some (name.text, name) := by cases name <;> rfl
      exact .choice proper find
    have read : readWords generateFlags (generateLine seedText countText format (some name)).tail =
        .ok [(assigned "--seed" seedText, .flag seedFlag "--seed" (some seedText)),
          (assigned "--count" countText, .flag countFlag "--count" (some countText)),
          (assigned "--format" format.text, .flag formatFlag "--format" (some (Text.ofString format.text))),
          (assigned "--source" name.text, .flag sourceFlag "--source" (some (Text.ofString name.text)))] := rfl
    rw [parseFlags, read]
    change fill _ _ = _
    rw [fill_of_takes seedTakes, fill_of_takes countTakes, fill_of_takes formatTakes, fill_of_takes sourceTakes]
    rfl

/-- Before the command, where only help is known, a word that gives an option a value is read as something else. -/
theorem readWords_help {word : Text} {words : List Text} (first : readWord [Flag.help (α := Unit)] word = .ok .value)
    (proper : word ≠ [dash, dash])
    (rest : ∀ w ∈ words, w ≠ [dash, dash] ∧ ∃ token, readWord [Flag.help (α := Unit)] w = .ok token) :
    (readWords [Flag.help (α := Unit)] (word :: words)).bind findCommand = .ok (.command [] word words) := by
  have others : ∃ tokens, readWords [Flag.help (α := Unit)] words = .ok tokens ∧ tokens.map (·.1) = words := by
    induction words with
    | nil => exact ⟨[], rfl, rfl⟩
    | cons w words ih =>
      obtain ⟨⟨ne, token, read⟩, later⟩ := List.forall_mem_cons.mp rest
      obtain ⟨tokens, found, same⟩ := ih later
      refine ⟨(w, token) :: tokens, ?_, by rw [List.map_cons, same]⟩
      rw [readWords, if_neg ne, read, found]
      rfl
  obtain ⟨tokens, found, same⟩ := others
  rw [readWords, if_neg proper, first, found, ← same]
  rfl

/-- Only help is known before the command, so no other word with two dashes is a fault there. -/
theorem exists_readWord_help {l : Letter} (letter : l ≠ .char 'h') (sign : l ≠ equalsSign) (rest : Text) :
    ∃ token, readWord [Flag.help (α := Unit)] (dash :: dash :: l :: rest) = .ok token := by
  have unnamed (behind : Text) : findFlag? [Flag.help (α := Unit)] (dash :: dash :: l :: behind) = none := by
    have apart : ¬ Letter.char 'h' = l := fun same => letter same.symm
    have short : (Text.ofString "-h" == dash :: dash :: l :: behind) = false := rfl
    have long : (Text.ofString "--help" == dash :: dash :: l :: behind) = false := by
      change (Letter.char 'h' == l && _) = false
      rw [beq_eq_false_iff_ne.mpr apart, Bool.false_and]
    simp only [findFlag?, named, Flag.help, List.flatMap_cons, List.map_cons, List.map_nil, List.flatMap_nil,
      List.append_nil, List.find?_cons, short, long, List.find?_nil]
  have split : ∃ behind rest', splitSign (dash :: dash :: l :: rest) = (dash :: dash :: l :: behind, rest') := by
    have apart : (l != equalsSign) = true := bne_iff_ne.mpr sign
    have first : (dash != equalsSign) = true := by decide
    rw [splitSign]
    simp only [List.dropWhile_cons, List.takeWhile_cons, apart, first, if_true]
    split
    · exact ⟨_, _, rfl⟩
    · exact ⟨_, _, rfl⟩
  obtain ⟨behind, attached, cut⟩ := split
  have inexact : ∃ token, readInexact [Flag.help (α := Unit)] (dash :: dash :: l :: rest) = .ok token := by
    have unknown : candidates [Flag.help (α := Unit)] (dash :: dash :: l :: rest) = [] := by
      have apart : (l == Letter.char 'h') = false := beq_eq_false_iff_ne.mpr letter
      have short : (dash :: dash :: l :: behind).isPrefixOf (Text.ofString "-h") = false := rfl
      have long : (dash :: dash :: l :: behind).isPrefixOf (Text.ofString "--help") = false := by
        change (l == Letter.char 'h' && _) = false
        rw [apart, Bool.false_and]
      have dashed : ((dash :: dash :: l :: rest).drop 1).head? = some dash := rfl
      rw [candidates, if_pos dashed, cut]
      simp only [named, Flag.help, List.flatMap_cons, List.map_cons, List.map_nil, List.flatMap_nil, List.append_nil,
        List.filterMap_cons, List.filterMap_nil, short, long, if_neg Bool.false_ne_true]
    rw [readInexact, unknown]
    dsimp only
    split
    · exact ⟨_, rfl⟩
    · exact ⟨_, rfl⟩
  rw [readWord, if_neg (by simp), unnamed]
  dsimp only
  rw [if_neg (by simp), cut]
  cases attached with
  | none => exact inexact
  | some value =>
    dsimp only
    rw [unnamed]
    exact inexact

theorem passes_help {l : Letter} (letter : l ≠ .char 'h') (sign : l ≠ equalsSign) (rest : Text) :
    dash :: dash :: l :: rest ≠ [dash, dash] ∧
      ∃ token, readWord [Flag.help (α := Unit)] (dash :: dash :: l :: rest) = .ok token :=
  ⟨fun same => List.cons_ne_nil l rest (List.cons.inj (List.cons.inj same).2).2, exists_readWord_help letter sign rest⟩

/-- A command is read from its options if help, which alone is known before it, is not among them. -/
theorem parse_of_parseCommand {word : Text} {words : List Text} {c : Command}
    (first : readWord [Flag.help (α := Unit)] word = .ok .value) (proper : word ≠ [dash, dash])
    (rest : ∀ w ∈ words, w ≠ [dash, dash] ∧ ∃ token, readWord [Flag.help (α := Unit)] w = .ok token)
    (read : parseCommand word words = .ok (.filled c [])) : parse (word :: words) = .ok (.command c) := by
  rw [parse, readWords_help first proper rest]
  simp only [read]
  rfl

/-- Every seed and count that can be read has a command line that asks for it with any format and source. -/
theorem parse_generateLine {seedText countText : Text} {seed count : Int}
    (seedRead : Integer.parse .marked seedText.chars = .ok seed)
    (countRead : Integer.parse .plain countText.chars = .ok count) (format : Format) (source : Option SourceName) :
    parse (generateLine seedText countText format source) =
      .ok (.command (.generate (.asking seed count format source))) := by
  have command : parseCommand (Text.ofString "generate") (generateLine seedText countText format source).tail =
      .ok (.filled (.generate (.asking seed count format source)) []) := by
    have known : (commandNames.find? fun n => Text.ofString n == Text.ofString "generate") = some "generate" := by decide
    rw [parseCommand, known]
    simp only [parseFlags_generateLine seedRead countRead format source]
  refine parse_of_parseCommand rfl (by decide) ?_ command
  simp only [List.forall_mem_cons]
  refine ⟨passes_help (by decide) (by decide) _, passes_help (by decide) (by decide) _,
    passes_help (by decide) (by decide) _, ?_⟩
  cases source with
  | none => nofun
  | some name => exact List.forall_mem_singleton.mpr (passes_help (by decide) (by decide) _)

end SeedStream.CommandLine
