import SeedStream.Failure
import SeedStream.Text.Digit

/-!
# Options

How the words of a command line are told apart. A word is an option of a command, a value, or an
option that the command does not know. Options may be cut short as long as one option remains that
they can stand for, and take their value from the next word or from behind an equals sign. Behind
two dashes every word is a value. A number with a minus sign, or a word with a space in it, is a
value although it begins with a dash. Two dashes behind an equals sign empty the option.
-/

namespace SeedStream.CommandLine

/-- What is wrong with the value of an option. -/
inductive ValueProblem
  /-- There is none. -/
  | absent
  /-- There is one although the option takes none. -/
  | unwanted (text : Text)
  /-- It is not of the kind that the option takes. -/
  | form (kind : String) (text : Text)
  /-- It is not among the choices. -/
  | choice (text : Text) (choices : List String)
  deriving DecidableEq, Repr

/-- What is wrong with a command line. -/
inductive UsageFault
  | noCommand
  | unrecognized (words : List Text)
  | ambiguous (word : Text) (names : List String)
  | argument (name : String) (problem : ValueProblem)
  /-- The data that the command line leads to are refused. -/
  | refused (failure : Failure)
  deriving DecidableEq, Repr

/-- Texts with a comma and a space between them. -/
def listed (texts : List String) : String :=
  ", ".intercalate texts

/-- The message for a value that is wrong. -/
def ValueProblem.message : ValueProblem → Text
  | absent => "expected one argument"
  | unwanted text => "ignored explicit argument " ++ quote text
  | form kind text => "invalid " ++ kind ++ " value: " ++ quote text
  | choice text choices =>
    "invalid choice: " ++ quote text ++ " (choose from " ++
      listed (choices.map fun (c : String) => quote c) ++ ")"

/-- The message for a command line that is wrong. -/
def UsageFault.message : UsageFault → Text
  | noCommand => "the following arguments are required: command"
  | unrecognized words => "unrecognized arguments: " ++ Text.between " " words
  | ambiguous word names => "ambiguous option: " ++ word ++ " could match " ++ listed names
  | argument name problem => "argument " ++ name ++ ": " ++ problem.message
  | refused failure => failure.message

/-- What an option was given. An emptied option has no value, which is not the same as an option that
    was not given. -/
inductive Given (β : Type)
  | value (b : β)
  | emptied
  deriving DecidableEq, Repr

namespace Given

variable {β : Type}

/-- The value that was given. -/
def value? : Given β → Option β
  | value b => some b
  | emptied => none

/-- The value that was given; an emptied option is a failure. -/
def get (e : Failure) : Given β → Except Failure β
  | value b => .ok b
  | emptied => .error e

end Given

/-- An option of a command whose options fill a record `α`. -/
structure Flag (α : Type) where
  /-- The ways to write the option. -/
  names : List String
  /-- What it does to the record with what it is given. An option that takes nothing asks for help. -/
  take : Option (Given Text → α → Except ValueProblem α)

/-- The option that asks for help. -/
def Flag.help {α : Type} : Flag α := ⟨["-h", "--help"], none⟩

/-- What a word is. -/
inductive Token (α : Type)
  | value
  /-- Two dashes: all words behind them are values. -/
  | separator
  /-- An option, as which name it is known, and the value in the same word. -/
  | flag (f : Flag α) (name : String) (attached : Option Text)
  | unknown

section

variable {α : Type}

/-- The options by name, in the order in which messages list them. -/
def named (flags : List (Flag α)) : List (String × Flag α) :=
  flags.flatMap fun f => f.names.map fun n => (n, f)

/-- The option of a name. -/
def findFlag? (flags : List (Flag α)) (t : Text) : Option (String × Flag α) :=
  (named flags).find? fun f => Text.ofString f.1 == t

/-- The sign with which an option begins. -/
def dash : Letter := .char '-'

/-- The sign between an option and its value. -/
def equalsSign : Letter := .char '='

/-- A text up to its first equals sign, and what is behind that sign. -/
def splitSign (t : Text) : Text × Option Text :=
  match t.dropWhile (· != equalsSign) with
  | [] => (t, none)
  | _ :: rest => (t.takeWhile (· != equalsSign), some rest)

/-- The options that a word cut short may stand for. A single dash and a letter may have a value
    right behind them. -/
def candidates (flags : List (Flag α)) (t : Text) : List (String × Token α) :=
  if (t.drop 1).head? = some dash then
    let (cut, behind) := splitSign t
    (named flags).filterMap fun f =>
      if cut.isPrefixOf (Text.ofString f.1) then some (f.1, .flag f.2 f.1 behind) else none
  else
    (named flags).filterMap fun f =>
      if Text.ofString f.1 = t.take 2 then some (f.1, .flag f.2 f.1 (some (t.drop 2)))
      else if t.isPrefixOf (Text.ofString f.1) then some (f.1, .flag f.2 f.1 none)
      else none

/-- A row of decimal digits of any script. -/
def isDigits (cs : List Char) : Bool :=
  cs.all fun c => (Text.decimalValue? c).isSome

/-- A minus sign and a number without an exponent; one line end may follow it. -/
def isNegativeNumber (cs : List Char) : Bool :=
  match cs with
  | '-' :: size =>
    let size := if size.getLast? = some '\n' then size.dropLast else size
    match size.dropWhile (· != '.') with
    | [] => !size.isEmpty && isDigits size
    | _ :: places => isDigits (size.takeWhile (· != '.')) && !places.isEmpty && isDigits places
  | _ => false

/-- What a word is that names no option exactly and stands before any two dashes. -/
def readInexact (flags : List (Flag α)) (word : Text) : Except UsageFault (Token α) :=
  match candidates flags word with
  | [one] => .ok one.2
  | [] =>
    if isNegativeNumber word.chars || word.contains (.char ' ') then .ok .value else .ok .unknown
  | several => .error (.ambiguous word (several.map (·.1)))

/-- What a word is that stands before any two dashes. -/
def readWord (flags : List (Flag α)) (word : Text) : Except UsageFault (Token α) :=
  if word.head? ≠ some dash then .ok .value
  else
    match findFlag? flags word with
    | some f => .ok (.flag f.2 f.1 none)
    | none =>
      if word = [dash] then .ok .value
      else
        match splitSign word with
        | (cut, some behind) =>
          match findFlag? flags cut with
          | some f => .ok (.flag f.2 f.1 (some behind))
          | none => readInexact flags word
        | _ => readInexact flags word

/-- What the words of a command line are. All are looked at before any of them counts. -/
def readWords (flags : List (Flag α)) : List Text → Except UsageFault (List (Text × Token α))
  | [] => .ok []
  | word :: rest =>
    if word = [dash, dash] then .ok ((word, .separator) :: rest.map fun w => (w, .value))
    else do
      let token ← readWord flags word
      let tokens ← readWords flags rest
      return (word, token) :: tokens

/-- Where the options of a command lead. -/
inductive Parsed (α : Type)
  | help
  /-- The record is filled, and these words are left. -/
  | filled (record : α) (left : List Text)

/-- A word left over comes before those left behind it. -/
def Parsed.leave (word : Text) : Parsed α → Parsed α
  | help => help
  | filled record left => filled record (word :: left)

/-- What is wrong with the letters behind a short option for help: only the letter of that option
    may follow it. -/
def unwantedBehind? : Text → Option Text
  | [] => none
  | l :: rest => if l = .char 'h' then unwantedBehind? rest else some (l :: rest)

/-- Ask for help, unless the option has a value that it does not take. -/
def askHelp (f : Flag α) (name : String) (attached : Option Text) : Except UsageFault Unit :=
  let unwanted? := attached.bind fun text =>
    if name = "-h" ∧ text ≠ [] then unwantedBehind? text else some text
  match unwanted? with
  | none => .ok ()
  | some text => .error (.argument ("/".intercalate f.names) (.unwanted text))

/-- What a value in the same word as its option says. -/
def givenOf (attached : Text) : Given Text :=
  if attached = [dash, dash] then .emptied else .value attached

/-- Give an option what its word says. -/
def give (f : Flag α) (take : Given Text → α → Except ValueProblem α) (given : Given Text)
    (record : α) : Except UsageFault α :=
  (take given record).mapError (.argument ("/".intercalate f.names))

/-- Fill a record by the options among the words, from left to right. -/
def fill (record : α) : List (Text × Token α) → Except UsageFault (Parsed α)
  | [] => .ok (.filled record [])
  | (_, .flag f name attached) :: rest =>
    match f.take, attached with
    | none, attached => (askHelp f name attached).map fun _ => .help
    | some take, some attached =>
      match give f take (givenOf attached) record with
      | .ok record => fill record rest
      | .error e => .error e
    | some take, none =>
      match rest with
      | (text, .value) :: rest =>
        match give f take (.value text) record with
        | .ok record => fill record rest
        | .error e => .error e
      | _ => .error (.argument ("/".intercalate f.names) .absent)
  | (word, _) :: rest => (fill record rest).map (Parsed.leave word)

/-- Fill a record by a command line. -/
def parseFlags (flags : List (Flag α)) (record : α) (words : List Text) :
    Except UsageFault (Parsed α) := do
  fill record (← readWords flags words)

end

end SeedStream.CommandLine
