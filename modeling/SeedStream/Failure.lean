import SeedStream.ByteCount
import SeedStream.Integer
import SeedStream.Kind
import SeedStream.Numeral
import SeedStream.Text.Quoted
import SeedStream.Text.Utf8
import SeedStream.Timestamp

/-!
# Failures

Every way in which an operation can fail, by its cause, and the message for each. A failure of the
caller's data counts as refused data; the command line reports those as usage errors and lets the
others through.
-/

namespace SeedStream

/-- An operator that an argument has to support. -/
inductive Operator
  | bitAnd
  | bitAndAssign
  | shiftLeft
  | add
  | less
  | lessOrEqual
  | greaterOrEqual
  deriving DecidableEq, Repr

/-- How an operator is written. -/
def Operator.symbol : Operator → String
  | .bitAnd => "&"
  | .bitAndAssign => "&="
  | .shiftLeft => "<<"
  | .add => "+"
  | .less => "<"
  | .lessOrEqual => "<="
  | .greaterOrEqual => ">="

/-- An argument of a kind that an operation has no meaning for. -/
inductive KindFault
  /-- An operator does not join two kinds. -/
  | operands (op : Operator) (left right : Kind)
  /-- Two kinds have no order. -/
  | order (op : Operator) (left right : Kind)
  /-- Only an integer will do. -/
  | index (kind : Kind)
  /-- Nothing that can be made an integer. -/
  | integer (kind : Kind)
  /-- Nothing that can be made a double. -/
  | real (kind : Kind)
  /-- The value has no items. -/
  | items (kind : Kind)
  /-- The value has no number of items. -/
  | length (kind : Kind)
  /-- The value cannot be asked for a member. -/
  | membership (kind : Kind)
  /-- A text cannot be asked for a named field. -/
  | textField
  /-- A list cannot be asked for a named field. -/
  | listField
  /-- Only its own kind can be put behind a text or a list. -/
  | concatenation (left right : Kind)
  /-- The value is no path. -/
  | path (kind : Kind)
  /-- The value is no number of items. -/
  | size (text : String)
  /-- The value is no number of bytes to read. -/
  | readSize (kind : Kind)
  /-- A fixed row of bytes is written to. -/
  | fixedBytes
  /-- A view without leave to write is written to. -/
  | readOnlyView
  /-- The value cannot be told apart from others as a name or a member. -/
  | unhashable (kind : Kind)
  /-- A truth value stands where a length should. -/
  | truthLength
  /-- Items of several fields are no words. -/
  | cast (shown : Text)
  /-- The text names no type of items. -/
  | itemText (text : Text)
  /-- The value, as it is shown, names no type of items. -/
  | itemValue (shown : String)
  /-- The value, as it is shown, describes no field of an item. -/
  | itemField (shown : String)
  /-- The name of a field of an item is no text. -/
  | fieldName
  /-- Only bytes will do, for an item of no size or of a size. -/
  | bytes (isSized : Bool) (kind : Kind)
  deriving DecidableEq, Repr

/-- What is wrong with the lengths before a code of an item. -/
inductive LengthsFault
  /-- There is nothing but blanks. -/
  | blank
  /-- A number begins with a zero and is not zero. -/
  | leadingZero
  /-- A bracket is closed that was not opened. -/
  | unopened
  /-- The bracket is not closed. -/
  | unclosed
  /-- Two numbers in the bracket follow one another. -/
  | noComma
  /-- A comma or a number stands where none may stand. -/
  | misplaced
  deriving DecidableEq, Repr

/-- Why the bytes of an array file are refused. -/
inductive ArrayFault
  /-- The bytes do not begin as an array file does. -/
  | foreign
  /-- The version of the format is not known. -/
  | version (major minor : Nat)
  /-- A part of the file is cut short. -/
  | short (part : String) (expected got : Nat)
  /-- The items are cut short. -/
  | items (shape : String) (expected : Int) (got : Nat)
  /-- The items are no numbers. -/
  | objects
  /-- The header is longer than is read. -/
  | longHeader (length : Nat)
  /-- The header is no literal. -/
  | unreadable (shown : String)
  /-- The header has no fields. -/
  | notFields (shown : String)
  /-- The header has other fields than it must have. -/
  | badNames (shown : String)
  /-- The header ends within brackets; the line behind its last one has this number. -/
  | openBracket (line : Nat)
  /-- The header ends within a text that began at a line and a column. -/
  | openText (line column : Nat)
  /-- A line of the header begins at no column at which a line above it does. -/
  | indentation (line : Nat)
  /-- A piece of the header stands before the end of the one before it; both are told by a line and
      a column. -/
  | misplaced (start stop : Nat × Nat)
  /-- There is a null byte in the header. -/
  | nullByte
  /-- The lengths of the dimensions are no row of integers. -/
  | badShape (shown : String)
  /-- The order of the items is no truth value. -/
  | badOrder (shown : String)
  /-- The kind of the items is not known. -/
  | badKind (shown : String)
  /-- A format among several is not known. -/
  | badFormat (number : Nat) (text : Text)
  /-- A format names two orders of bytes. -/
  | byteOrders (first second : String)
  /-- The lengths in a format cannot be read. -/
  | formatLengths (fault : LengthsFault)
  /-- A unit of time has a divisor although it is not fixed. -/
  | loosePart
  /-- No smaller unit of time is contained in a unit so often that it can be divided so. -/
  | unitPart (divisor : Int) (unit : Text)
  /-- Two fields of an item have one name. -/
  | repeatedName
  /-- Two fields of an item have one title. -/
  | repeatedTitle
  /-- A part of a type stands for one of another size. -/
  | sizeMismatch
  /-- A text of no size is given one that is no integer. -/
  | badSize
  /-- A row lacks a part. -/
  | noPart
  /-- The lengths of an item that is an array are no lengths. -/
  | badLengths (reason : String)
  /-- An item that is an array is no single number. -/
  | broadcast (shape : String)
  /-- The file is an archive cut short. -/
  | archive
  deriving DecidableEq, Repr

/-- Data of the right kind that an operation refuses. -/
inductive ValueFault
  | integerText (base : Nat) (text : Text)
  /-- A text among the items of an array is no decimal numeral. -/
  | integerItem (shown : List Char)
  | longInteger (digits : Nat)
  /-- An integer has more digits than are written. -/
  | longNumeral
  | realText (text : Text)
  | noNumber
  | negativeShift
  | stateSize (size : Nat)
  | wordCount (count : Nat)
  | laneShape
  /-- Items that do not fill a shape. -/
  | reshape (count : Nat) (shape : String)
  | emptySequence
  | emptySample
  | unequalSeeds
  | zeroSeed
  | unknownSource (shown : String)
  | unknownFormat (shown : String)
  | binaryFormat (shown : String)
  | formatNeedsOutput (name : String)
  | negativeCount (shown : String)
  | sampleCount (count : Int)
  | bound (shown : String)
  | recordLayout (count size : Text)
  | recordSpan (count size : Text) (length : Nat)
  | partialWord
  /-- A row has more items than an array can have. -/
  | dimension
  /-- A row has more bytes than an array can have. -/
  | arraySize
  | negativeLength
  /-- A list has more levels than an array can have dimensions. -/
  | nesting
  /-- A shape has more lengths than an array can have dimensions. -/
  | dimensions (found : Nat)
  /-- More than one length of a shape is left open. -/
  | openLengths
  /-- A number stands for a moment although the unit of time is not fixed. -/
  | looseMoment
  /-- Nothing that can be made a moment or a span of time. -/
  | time (isSpan : Bool)
  /-- A path has a null in it. -/
  | nullByte
  /-- A text has letters that no byte stands for. -/
  | letters (error : Text.LetterError)
  | notMapping (path : Text)
  | emptyName (path : Text)
  | readLength
  /-- There are fewer parts than there must be. -/
  | fewParts (expected got : Nat)
  /-- There are more parts than there must be. -/
  | manyParts (expected : Nat)
  | array (fault : ArrayFault)
  | calendar (fault : CalendarFault)
  /-- The entropy device refuses with words of its own. -/
  | device (text : Text)
  deriving DecidableEq, Repr

/-- A number that the target of a conversion cannot hold. -/
inductive RangeFault
  /-- An integer outside the kind of numbers that has this name. -/
  | number (i : Int) (name : String)
  | long
  /-- A number of items beyond all memory. -/
  | size
  /-- A number of bytes to read beyond all memory. -/
  | readSize
  /-- A row of bytes longer than any row can be. -/
  | bytes
  | infinity
  | real
  /-- An integer has no machine word. -/
  | machineWord
  /-- A number shifted so far that it cannot be written down. -/
  | shift
  deriving DecidableEq, Repr

/-- The memory of a machine. The program itself takes more than the least there is. -/
class Memory where
  /-- The number of bytes that no single result can have. -/
  limit : Nat
  enough : 0x200000 ≤ limit

/-- The number of bytes that no single result can have. -/
abbrev memoryLimit [Memory] : Nat := Memory.limit

/-- The memory of a machine that has thirty-two gibibytes. -/
abbrev Memory.standard : Memory := ⟨0x800000000, by decide⟩

/-- No array has so many items, and none has so many bytes. -/
def arrayLimit : Nat := 0x8000000000000000

/-- Why there is no memory for a result. -/
inductive MemoryFault
  /-- An array of a shape, a number of bytes and a kind of items is too large. -/
  | array (bytes : Nat) (shape : String) (items : Text)
  /-- Something else is too large. -/
  | other
  deriving DecidableEq, Repr

/-- Why an entropy source gives no word. -/
inductive EntropyFault
  | exhausted
  | noDevice
  | reported (text : Text)
  deriving DecidableEq, Repr

/-- Why a path cannot be read or written. -/
inductive FileFault
  | absent
  | present
  | notFolder
  | isFolder
  /-- A name has more bytes than a folder can list, or a path more than any path. -/
  | longName
  deriving DecidableEq, Repr

/-- What a text lacks to be JSON. -/
inductive JsonFault
  | value
  | name
  | colon
  | comma
  | control
  | unterminated
  | escape
  | unicodeEscape
  | extra
  | byteOrderMark
  deriving DecidableEq, Repr

/-- A part of the program that may not be installed. -/
inductive Facility
  | statistics
  | plotting
  | protocols
  deriving DecidableEq, Repr

/-- Where a part of a document begins: its line, counted from one, the number of characters before
    it on the line, and the whole line. -/
structure Mark where
  line : Nat
  column : Nat
  text : List Char
  deriving DecidableEq, Repr

/-- Why a part of a document stands for no value. -/
inductive NodeFault
  /-- The scalar has a tag that stands for no value. -/
  | tag (name : String) (place : Mark)
  /-- What a mapping takes in is of another kind than a mapping. -/
  | merge (inList : Bool) (found : String) (mapping place : Mark)
  deriving DecidableEq, Repr

/-- Why an operation fails. -/
inductive Failure
  | kind (fault : KindFault)
  | value (fault : ValueFault)
  | range (fault : RangeFault)
  | memory (fault : MemoryFault)
  | entropy (fault : EntropyFault)
  | file (fault : FileFault) (path : Text)
  | json (fault : JsonFault) (line column position : Nat)
  /-- Lists or objects of JSON lie too deep within one another. -/
  | depth (ofObject : Bool)
  | utf8 (error : Text.Utf8Error)
  | endOfFile
  /-- A text is no document of YAML. -/
  | yaml
  /-- A part of a document of YAML stands for no value. -/
  | node (fault : NodeFault)
  | missing (facility : Facility)
  | noManifest (path : Text)
  /-- The value has no named fields at all. -/
  | noFields (kind : Kind)
  /-- The operating system reports a failure of the entropy device. -/
  | system (text : Text)
  /-- A comparison gives no answer. -/
  | comparison (text : Text)
  /-- A source says, in words of its own, that there is nothing left of it. -/
  | ended (text : Text)
  /-- A source says so inside a row of draws. -/
  | rowEnded
  deriving DecidableEq, Repr

/-- A text between quotes, as messages show it. -/
def quote (t : Text) : String :=
  String.ofList t.quoted

/-- Join three parts with the two kinds that a message names between them. -/
def betweenKinds (opening middle closing : String) (left right : Kind) : String :=
  opening ++ left.name ++ middle ++ right.name ++ closing

/-- The message for an argument of the wrong kind. -/
def KindFault.message : KindFault → Text
  | operands op left right =>
    betweenKinds ("unsupported operand type(s) for " ++ op.symbol ++ ": '") "' and '" "'" left right
  | order op left right =>
    betweenKinds ("'" ++ op.symbol ++ "' not supported between instances of '") "' and '" "'" left
      right
  | index kind => "'" ++ kind.name ++ "' object cannot be interpreted as an integer"
  | integer kind =>
    "int() argument must be a string, a bytes-like object or a real number, not '" ++ kind.name ++ "'"
  | real kind => "float() argument must be a string or a real number, not '" ++ kind.name ++ "'"
  | items kind => "'" ++ kind.name ++ "' object is not iterable"
  | length kind => "object of type '" ++ kind.name ++ "' has no len()"
  | membership kind => "argument of type '" ++ kind.name ++ "' is not iterable"
  | textField => "string indices must be integers, not 'str'"
  | listField => "list indices must be integers or slices, not str"
  | concatenation left right =>
    "can only concatenate " ++ left.name ++ " (not \"" ++ right.name ++ "\") to " ++ left.name
  | path kind => "expected str, bytes or os.PathLike object, not " ++ kind.shortName
  | size text => "expected a sequence of integers or a single integer, got '" ++ text ++ "'"
  | readSize kind => "argument should be integer or None, not '" ++ kind.name ++ "'"
  | fixedBytes => "'bytes' object does not support item assignment"
  | readOnlyView => "cannot modify read-only memory"
  | unhashable kind => "unhashable type: '" ++ kind.name ++ "'"
  | truthLength => "an integer is required"
  | cast shown =>
    "Cannot cast array data from " ++ shown ++ " to dtype('uint32') according to the rule 'unsafe'"
  | itemText text => "data type " ++ quote text ++ " not understood"
  | itemValue shown => "Cannot interpret '" ++ shown ++ "' as a data type"
  | itemField shown => "Field elements must be 2- or 3-tuples, got '" ++ shown ++ "'"
  | fieldName => "field names must be strings"
  | bytes isSized kind =>
    (if isSized then "a" else "A") ++ " bytes-like object is required, not '" ++ kind.name ++ "'"

/-- The message for lengths before a code, with the line that it names. -/
def LengthsFault.message : LengthsFault → String
  | blank => "invalid syntax (<unknown>, line 0)"
  | leadingZero =>
    "leading zeros in decimal integer literals are not permitted; use an 0o prefix for octal " ++
      "integers (<unknown>, line 1)"
  | unopened => "unmatched ')' (<unknown>, line 1)"
  | unclosed => "'(' was never closed (<unknown>, line 1)"
  | noComma => "invalid syntax. Perhaps you forgot a comma? (<unknown>, line 1)"
  | misplaced => "invalid syntax (<unknown>, line 1)"

/-- The message for an array file that is refused. -/
def ArrayFault.message : ArrayFault → Text
  | foreign =>
    "This file contains pickled (object) data. If you trust the file you can load it unsafely " ++
      "using the `allow_pickle=` keyword argument or `pickle.load()`."
  | version major minor =>
    "we only support format version (1,0), (2,0), and (3,0), not (" ++ Numeral.ofNat major ++ ", " ++
      Numeral.ofNat minor ++ ")"
  | short part expected got =>
    "EOF: reading " ++ part ++ ", expected " ++ Numeral.ofNat expected ++ " bytes got " ++
      Numeral.ofNat got
  | items shape expected got =>
    "Failed to read all data for array. Expected " ++ shape ++ " = " ++ Numeral.ofInt expected ++
      " elements, could only read " ++ Numeral.ofNat got ++
      " elements. (file seems not fully written?)"
  | objects => "Object arrays cannot be loaded when allow_pickle=False"
  | longHeader length =>
    "Header info length (" ++ Numeral.ofNat length ++
      ") is large and may not be safe to load securely.\n" ++
      "To allow loading, adjust `max_header_size` or fully trust the `.npy` file using " ++
      "`allow_pickle=True`.\n" ++
      "For safety against large resource use or crashes, sandboxing may be necessary."
  | unreadable shown => "Cannot parse header: " ++ shown
  | notFields shown => "Header is not a dictionary: " ++ shown
  | badNames shown => "Header does not contain the correct keys: " ++ shown
  | openBracket line => "('EOF in multi-line statement', (" ++ Numeral.ofNat line ++ ", 0))"
  | openText line column =>
    "('EOF in multi-line string', (" ++ Numeral.ofNat line ++ ", " ++ Numeral.ofNat column ++ "))"
  | indentation line =>
    "unindent does not match any outer indentation level (<tokenize>, line " ++ Numeral.ofNat line ++
      ")"
  | misplaced start stop =>
    "start (" ++ Numeral.ofNat start.1 ++ "," ++ Numeral.ofNat start.2 ++ ") precedes previous end (" ++
      Numeral.ofNat stop.1 ++ "," ++ Numeral.ofNat stop.2 ++ ")"
  | nullByte => "source code string cannot contain null bytes"
  | badShape shown => "shape is not valid: " ++ shown
  | badOrder shown => "fortran_order is not a valid bool: " ++ shown
  | badKind shown => "descr is not a valid dtype descriptor: " ++ shown
  | badFormat number text =>
    "format number " ++ Numeral.ofNat number ++ " of \"" ++ text ++ "\" is not recognized"
  | byteOrders first second =>
    "inconsistent byte-order specification " ++ first ++ " and " ++ second
  | formatLengths fault => fault.message
  | loosePart => "Can't use 'den' divisor with generic units"
  | unitPart divisor unit =>
    "divisor (" ++ Numeral.ofInt divisor ++
      ") is not a multiple of a lower-unit in datetime metadata \"" ++ unit ++ "\""
  | repeatedName => "name already used as a name or title"
  | repeatedTitle => "title already used as a name or title."
  | sizeMismatch => "mismatch in size of old and new data-descriptor"
  | badSize => "invalid itemsize in generic type tuple"
  | noPart => "tuple index out of range"
  | badLengths reason => "invalid shape in fixed-type tuple" ++ reason
  | broadcast shape => "could not broadcast input array from shape " ++ shape ++ " into shape ()"
  | archive => "File is not a zip file"

/-- At most two hundred characters of a shown text, which is what a message about a numeral keeps. -/
def clipped (shown : List Char) : String :=
  String.ofList (shown.take 200)

/-- The message for letters that no byte stands for. -/
def lettersMessage (e : Text.LetterError) : String :=
  if e.length = 1 then
    "'utf-8' codec can't encode character '" ++ String.ofList (Text.escapeCode e.letter.toNat) ++
      "' in position " ++ Numeral.ofNat e.start ++ ": surrogates not allowed"
  else
    "'utf-8' codec can't encode characters in position " ++ Numeral.ofNat e.start ++ "-" ++
      Numeral.ofNat (e.start + e.length - 1) ++ ": surrogates not allowed"

/-- The greatest number of dimensions of an array. -/
def maxDimensions : Nat := 64

/-- The message for refused data. -/
def ValueFault.message : ValueFault → Text
  | integerText base text =>
    "invalid literal for int() with base " ++ Numeral.ofNat base ++ ": " ++ clipped text.quoted
  | integerItem shown => "invalid literal for int() with base 10: " ++ clipped shown
  | longInteger digits =>
    "Exceeds the limit (" ++ Numeral.ofNat Integer.maxDigits ++
      " digits) for integer string conversion: value has " ++ Numeral.ofNat digits ++
      " digits; use sys.set_int_max_str_digits() to increase the limit"
  | longNumeral =>
    "Exceeds the limit (" ++ Numeral.ofNat Integer.maxDigits ++
      " digits) for integer string conversion; use sys.set_int_max_str_digits() to increase the limit"
  | realText text => "could not convert string to float: " ++ quote text
  | noNumber => "cannot convert float NaN to integer"
  | negativeShift => "negative shift count"
  | stateSize size => "GeneratorState needs 4 words, got " ++ Numeral.ofNat size
  | wordCount count => "expected 4 state words, got " ++ Numeral.ofNat count
  | laneShape => "states must be an (n, 4) uint32 array"
  | reshape count shape =>
    "cannot reshape array of size " ++ Numeral.ofNat count ++ " into shape " ++ shape
  | emptySequence => "SequenceSource needs at least one value"
  | emptySample => "statistical battery needs at least one sample"
  | unequalSeeds => "seed arrays must have the same length"
  | zeroSeed => "seed 0 selects native mode and has no reference vector"
  | unknownSource shown =>
    "Unknown entropy source " ++ shown ++ "; expected one of auto, os, mersenne, clock"
  | unknownFormat shown =>
    "Unknown output format " ++ shown ++ "; expected one of hex, dec, bin, npy"
  | binaryFormat shown => "Output format " ++ shown ++ " is binary and has no text form"
  | formatNeedsOutput name => "--format " ++ name ++ " needs --output"
  | negativeCount shown => "count must be non-negative, got " ++ shown
  | sampleCount count => "stats samples must be positive, got " ++ Numeral.ofInt count
  | bound shown => "n must be in [1, 2**32], got " ++ shown
  | recordLayout count size => "invalid record layout: count=" ++ count ++ ", size=" ++ size
  | recordSpan count size length =>
    count ++ " records of " ++ size ++ " bytes exceed a " ++ Numeral.ofNat length ++ "-byte buffer"
  | partialWord => "buffer size must be a multiple of element size"
  | dimension => "Maximum allowed dimension exceeded"
  | arraySize =>
    "array is too big; `arr.size * arr.dtype.itemsize` is larger than the maximum possible size."
  | negativeLength => "negative dimensions are not allowed"
  | nesting =>
    "setting an array element with a sequence. The requested array would exceed the maximum " ++
      "number of dimension of " ++ Numeral.ofNat maxDimensions ++ "."
  | dimensions found =>
    "maximum supported dimension for an ndarray is currently " ++ Numeral.ofNat maxDimensions ++
      ", found " ++ Numeral.ofNat found
  | openLengths => "can only specify one unknown dimension"
  | looseMoment => "Converting an integer to a NumPy datetime requires a specified unit"
  | time isSpan =>
    "Could not convert object to NumPy " ++ (if isSpan then "timedelta" else "datetime")
  | nullByte => "embedded null byte"
  | letters error => lettersMessage error
  | notMapping path => "Protocol file must contain a mapping: " ++ path
  | emptyName path => "PosixPath(" ++ quote path ++ ") has an empty name"
  | readLength => "read length must be non-negative or -1"
  | fewParts expected got =>
    "not enough values to unpack (expected " ++ Numeral.ofNat expected ++ ", got " ++
      Numeral.ofNat got ++ ")"
  | manyParts expected => "too many values to unpack (expected " ++ Numeral.ofNat expected ++ ")"
  | array fault => fault.message
  | calendar fault => fault.message
  | device text => text

/-- The message for a number out of range. -/
def RangeFault.message : RangeFault → String
  | number i name => "Python integer " ++ Numeral.ofInt i ++ " out of bounds for " ++ name
  | long => "Python int too large to convert to C long"
  | size => "Python int too large to convert to C ssize_t"
  | readSize => "cannot fit 'int' into an index-sized integer"
  | bytes => "byte string is too large"
  | infinity => "cannot convert float infinity to integer"
  | real => "int too large to convert to float"
  | machineWord => "int too big to convert"
  | shift => "too many digits in integer"

/-- The message for a result that there is no memory for. -/
def MemoryFault.message : MemoryFault → Text
  | array bytes shape items =>
    "Unable to allocate " ++ ByteCount.text bytes ++ " for an array with shape " ++ shape ++
      " and data type " ++ items
  | other => []

/-- The message for an entropy source that gives no word. -/
def EntropyFault.message : EntropyFault → Text
  | exhausted => "SequenceSource exhausted"
  | noDevice => "os.urandom is not available on this platform"
  | reported text => text

/-- The number and words that an operating system has for a path it refuses. -/
def FileFault.message : FileFault → String
  | absent => "[Errno 2] No such file or directory: "
  | present => "[Errno 17] File exists: "
  | notFolder => "[Errno 20] Not a directory: "
  | isFolder => "[Errno 21] Is a directory: "
  | longName => "[Errno 36] File name too long: "

/-- What a text lacks to be JSON, in words. -/
def JsonFault.message : JsonFault → String
  | value => "Expecting value"
  | name => "Expecting property name enclosed in double quotes"
  | colon => "Expecting ':' delimiter"
  | comma => "Expecting ',' delimiter"
  | control => "Invalid control character at"
  | unterminated => "Unterminated string starting at"
  | escape => "Invalid \\escape"
  | unicodeEscape => "Invalid \\uXXXX escape"
  | extra => "Extra data"
  | byteOrderMark => "Unexpected UTF-8 BOM (decode using utf-8-sig)"

/-- The message for bytes that are not UTF-8. -/
def utf8Message (e : Text.Utf8Error) : String :=
  if e.length = 1 then
    "'utf-8' codec can't decode byte 0x" ++ String.ofList (Text.hexDigits 2 e.byte.toNat) ++
      " in position " ++ Numeral.ofNat e.start ++ ": " ++ e.reason.message
  else
    "'utf-8' codec can't decode bytes in position " ++ Numeral.ofNat e.start ++ "-" ++
      Numeral.ofNat (e.start + e.length - 1) ++ ": " ++ e.reason.message

/-- The message for a part of the program that is not installed. -/
def Facility.message : Facility → String
  | statistics => "scipy is required for the statistical battery. Install scipy."
  | plotting => "matplotlib is required for plotting"
  | protocols => "PyYAML is required to load protocol files. Install pyyaml."

/-- The greatest number of characters on either side of a mark that are shown of a line. -/
def Mark.reach : Nat := 36

/-- The characters that are left on a side of which more is cut off. -/
def Mark.cutReach : Nat := 32

/-- What stands for a part of a line that is cut off. -/
def Mark.omission : List Char := [' ', '.', '.', '.', ' ']

/-- The part of the line before a mark that is shown. -/
def Mark.before (m : Mark) : List Char :=
  if m.column ≤ reach then m.text.take m.column
  else omission ++ (m.text.take m.column).drop (m.column - cutReach)

/-- The part of the line from a mark on that is shown. -/
def Mark.behind (m : Mark) : List Char :=
  let tail := m.text.drop m.column
  if tail.length ≤ reach then tail else tail.take cutReach ++ omission

/-- The text of a mark: its place, and below it its line with a sign under the place. -/
def Mark.message (m : Mark) : String :=
  "  in \"<unicode string>\", line " ++ Numeral.ofNat m.line ++ ", column " ++
    Numeral.ofNat (m.column + 1) ++ ":\n    " ++ String.ofList (m.before ++ m.behind) ++ "\n    " ++
    String.ofList (m.before.map fun _ => ' ') ++ "^"

/-- The message for a part of a document that stands for no value. -/
def NodeFault.message : NodeFault → String
  | tag name place =>
    "could not determine a constructor for the tag 'tag:yaml.org,2002:" ++ name ++ "'\n" ++
      place.message
  | merge inList found mapping place =>
    "while constructing a mapping\n" ++ mapping.message ++ "\nexpected a mapping " ++
      (if inList then "" else "or list of mappings ") ++ "for merging, but found " ++ found ++ "\n" ++
      place.message

/-- The message for a failure. -/
def Failure.message : Failure → Text
  | kind fault => fault.message
  | value fault => fault.message
  | range fault => fault.message
  | memory fault => fault.message
  | entropy fault => fault.message
  | file fault path => fault.message ++ quote path
  | json fault line column position =>
    fault.message ++ ": line " ++ Numeral.ofNat line ++ " column " ++ Numeral.ofNat column ++
      " (char " ++ Numeral.ofNat position ++ ")"
  | depth ofObject =>
    "maximum recursion depth exceeded while decoding a JSON " ++
      (if ofObject then "object" else "array") ++ " from a unicode string"
  | utf8 error => utf8Message error
  | endOfFile => "No data left in file"
  | yaml => "the document cannot be read"
  | node fault => fault.message
  | missing facility => facility.message
  | noManifest path => "Reference manifest not found: " ++ path
  | noFields k => "'" ++ k.name ++ "' object has no attribute 'get'"
  | system text => text
  | comparison text => text
  | ended text => text
  | rowEnded => "generator raised StopIteration"

/-- A failure of a draw as a row of draws hands it on: the end of a source is no end of the row. -/
def Failure.inRow : Failure → Failure
  | ended _ => rowEnded
  | e => e

theorem Failure.inRow_cases (e : Failure) : e.inRow = e ∨ ∃ text, e = ended text ∧ e.inRow = rowEnded := by
  cases e with
  | ended text => exact .inr ⟨text, rfl, rfl⟩
  | _ => exact .inl rfl

/-- The failure lies in data of the right kind, as text that holds no JSON or no UTF-8 does too. -/
def Failure.isRefusedData : Failure → Bool
  | value _ => true
  | json .. => true
  | utf8 _ => true
  | _ => false

end SeedStream
