import SeedStream.Text.Lines
import SeedStream.Yaml.Node

/-!
# Documents of YAML

The nodes of a document: a block of fields or of items, told apart by indentation, or a single node.
Nodes on a line are scalars with or without quotes, lists in brackets and mappings in braces.
Comments begin with `#` at the start of a line, behind a space, or behind quotes and brackets. Tags,
anchors, block texts and quotes over several lines are refused.
-/

namespace SeedStream.Yaml

/-- A line that holds something. -/
structure Line where
  /-- Its number, counted from one. -/
  number : Nat
  /-- The number of characters before what it holds. -/
  indent : Nat
  /-- What it holds. -/
  text : List Char
  /-- The whole line. -/
  whole : List Char

/-- The place on a line where the given rest of it begins. -/
def Line.placeOf (l : Line) (rest : List Char) : Mark :=
  ⟨l.number, l.whole.length - rest.length, l.whole⟩

/-! ## On a line -/

/-- A character that ends lists and objects or sets their members apart. -/
def isFlowMark (c : Char) : Bool :=
  [',', '[', ']', '\x7b', '\x7d'].contains c

/-- The text without the spaces before it. -/
def skipSpaces (cs : List Char) : List Char :=
  cs.dropWhile (· == ' ')

/-- Nothing follows but spaces and perhaps a comment. -/
def isEnd (cs : List Char) : Bool :=
  match skipSpaces cs with
  | [] => true
  | c :: _ => c == '#'

/-- A colon with these characters behind it sets a key apart from its value. -/
def endsKey (inFlow : Bool) : List Char → Bool
  | [] => true
  | c :: _ => c == ' ' || c == '\t' || (inFlow && isFlowMark c)

/-- The characters of a scalar without quotes up to its end, spaces at the end included. -/
def plainRun (inFlow : Bool) : List Char → List Char × List Char
  | [] => ([], [])
  | c :: rest =>
    let stops :=
      c == '\t' || (c == ' ' && isEnd (c :: rest)) || (c == ':' && endsKey inFlow rest) ||
        (inFlow && (isFlowMark c || c == '?'))
    if stops then ([], c :: rest)
    else
      let (run, rest) := plainRun inFlow rest
      (c :: run, rest)

/-- A scalar without quotes may begin here. -/
def startsPlain (inFlow : Bool) : List Char → Bool
  | [] => false
  | c :: rest =>
    if c == '-' || c == '?' || c == ':' then !endsKey inFlow rest
    else !(" \t,[]\x7b\x7d#&*!|>\x27\x22%@\x60".toList.contains c)

/-- The characters of a scalar without quotes, and what follows it. -/
def plain? (inFlow : Bool) (cs : List Char) : Option (List Char × List Char) :=
  if startsPlain inFlow cs then
    let (run, rest) := plainRun inFlow cs
    some ((run.reverse.dropWhile (· == ' ')).reverse, rest)
  else none

/-- The scalar at the rest of a line, and what follows it. -/
def scalarAt? (inFlow : Bool) (l : Line) (cs : List Char) : Option (Node × List Char) :=
  match quoted? cs with
  | some (text, rest) => some (.text (l.placeOf cs) text, rest)
  | none => (plain? inFlow cs).map fun r => (.plain (l.placeOf cs) r.1, r.2)

/-- The node of no characters at a place. -/
def absent (l : Line) (cs : List Char) : Node :=
  .plain (l.placeOf cs) []

/-- A member of brackets or braces is over. -/
def endsMember : List Char → Bool
  | [] => false
  | c :: _ => c == ',' || c == ']' || c == '\x7d'

mutual

/-- The node at the rest of a line and what follows it; `fuel` exceeds the length of the line. -/
def flow (inFlow : Bool) (l : Line) : Nat → List Char → Option (Node × List Char)
  | 0, _ => none
  | fuel + 1, cs =>
    match cs with
    | '[' :: rest => (flowItems l fuel [] (skipSpaces rest)).map fun r => (.list (l.placeOf cs) r.1, r.2)
    | '\x7b' :: rest =>
      (flowFields l fuel [] (skipSpaces rest)).map fun r => (.mapping (l.placeOf cs) r.1, r.2)
    | _ => scalarAt? inFlow l cs

/-- The value behind the colon of a field in brackets or braces. -/
def flowValue (l : Line) : Nat → List Char → Option (Node × List Char)
  | 0, _ => none
  | fuel + 1, cs =>
    let rest := skipSpaces cs
    if endsMember rest then some (absent l cs, rest) else flow true l fuel rest

/-- The members of a list in brackets from one of them on. A field among them is a mapping of its
    own. -/
def flowItems (l : Line) : Nat → List Node → List Char → Option (List Node × List Char)
  | 0, _, _ => none
  | fuel + 1, done, cs =>
    match cs with
    | ']' :: rest => some (done.reverse, rest)
    | _ => do
      let (item, rest) ← flow true l fuel cs
      let (item, rest) ←
        match skipSpaces rest with
        | ':' :: rest => (flowValue l fuel rest).map fun r => (.mapping item.place [(item, r.1)], r.2)
        | rest => some (item, rest)
      match skipSpaces rest with
      | ']' :: rest => some ((item :: done).reverse, rest)
      | ',' :: rest => flowItems l fuel (item :: done) (skipSpaces rest)
      | _ => none

/-- The fields of a mapping in braces from one of them on. A field without a colon has no value. -/
def flowFields (l : Line) :
    Nat → List (Node × Node) → List Char → Option (List (Node × Node) × List Char)
  | 0, _, _ => none
  | fuel + 1, done, cs =>
    match cs with
    | '\x7d' :: rest => some (done.reverse, rest)
    | _ => do
      let (key, rest) ← scalarAt? true l cs
      let (value, rest) ←
        match skipSpaces rest with
        | ':' :: rest => flowValue l fuel rest
        | rest => some (absent l rest, rest)
      match skipSpaces rest with
      | '\x7d' :: rest => some (((key, value) :: done).reverse, rest)
      | ',' :: rest => flowFields l fuel ((key, value) :: done) (skipSpaces rest)
      | _ => none

end

/-- The key at the start of a line and the text behind its colon, if the line holds a field. -/
def key? (l : Line) : Option (Node × List Char) := do
  let (key, rest) ← scalarAt? false l l.text
  match skipSpaces rest with
  | ':' :: rest => if endsKey false rest then some (key, rest) else none
  | _ => none

/-- The text of an item behind its dash, if the line holds an item. -/
def item? : List Char → Option (List Char)
  | '-' :: rest => if endsKey false rest then some rest else none
  | _ => none

/-! ## Blocks -/

/-- The node at the rest of a line. A scalar without quotes goes on over the next lines that have
    `least` spaces before them. -/
def inlineNode (least : Nat) (line : Line) (cs : List Char) (lines : List Line) :
    Option (Node × List Line) :=
  match plain? false cs with
  | some (run, []) => do
    let more := lines.takeWhile fun l => least ≤ l.indent
    let runs ← more.mapM fun l =>
      match plainRun false l.text with
      | (run, []) => some run
      | _ => none
    return (.plain (line.placeOf cs) (run ++ runs.flatMap (' ' :: ·)), lines.drop more.length)
  | _ => do
    let (node, rest) ← flow false line (cs.length + 1) cs
    if isEnd rest then some (node, lines) else none

mutual

/-- The block that begins with the first line, all of it with `least` spaces before it; `fuel`
    exceeds the number of steps. -/
def block : Nat → Nat → Line → List Line → Option (Node × List Line)
  | 0, _, _, _ => none
  | fuel + 1, least, line, rest =>
    let place := line.placeOf line.text
    if (item? line.text).isSome then
      (blockItems fuel line.indent [] (line :: rest)).map fun r => (.list place r.1, r.2)
    else if (key? line).isSome then
      (blockFields fuel line.indent [] (line :: rest)).map fun r => (.mapping place r.1, r.2)
    else inlineNode least line line.text rest

/-- The items of a block from one of them on. -/
def blockItems : Nat → Nat → List Node → List Line → Option (List Node × List Line)
  | 0, _, _, _ => none
  | _ + 1, _, done, [] => some (done.reverse, [])
  | fuel + 1, indent, done, line :: rest =>
    if line.indent < indent then some (done.reverse, line :: rest)
    else if indent < line.indent then none
    else
      match item? line.text with
      | none => some (done.reverse, line :: rest)
      | some text => do
        let inner := skipSpaces text
        let (node, rest) ←
          if isEnd text then behind fuel indent line text rest
          else
            let column := indent + 1 + (text.length - inner.length)
            block fuel (indent + 1) { line with indent := column, text := inner } rest
        blockItems fuel indent (node :: done) rest

/-- The fields of a block from one of them on. The items of a list may stand as far out as the key
    that they belong to. -/
def blockFields : Nat → Nat → List (Node × Node) → List Line → Option (List (Node × Node) × List Line)
  | 0, _, _, _ => none
  | _ + 1, _, done, [] => some (done.reverse, [])
  | fuel + 1, indent, done, line :: rest =>
    if line.indent < indent then some (done.reverse, line :: rest)
    else if indent < line.indent then none
    else do
      let (key, text) ← key? line
      let (node, rest) ←
        if isEnd text then
          match rest with
          | next :: _ =>
            if next.indent = indent && (item? next.text).isSome then
              (blockItems fuel indent [] rest).map fun r => (.list (next.placeOf next.text) r.1, r.2)
            else behind fuel indent line text rest
          | [] => some (absent line text, [])
        else inlineNode (indent + 1) line (skipSpaces text) rest
      blockFields fuel indent ((key, node) :: done) rest

/-- The block on the lines further in than a key or a dash, or nothing at all. -/
def behind : Nat → Nat → Line → List Char → List Line → Option (Node × List Line)
  | 0, _, _, _, _ => none
  | fuel + 1, indent, line, text, lines =>
    match lines with
    | next :: rest =>
      if indent < next.indent then block fuel (indent + 1) next rest else some (absent line text, lines)
    | [] => some (absent line text, [])

end

/-! ## Documents -/

/-- The lines of a text that are neither empty nor a comment. -/
def significantLines (cs : List Char) : List Line :=
  (Text.lines cs).zipIdx.filterMap fun (l, index) =>
    let text := skipSpaces l
    if text.isEmpty || text.head? == some '#' then none
    else some ⟨index + 1, l.length - text.length, text, l⟩

/-- A line that marks the start or the end of a document. -/
def isMark (mark : List Char) (l : Line) : Bool :=
  l.indent == 0 && mark.isPrefixOf l.text && endsKey false (l.text.drop 3) && isEnd (l.text.drop 3)

/-- The lines of a document without the marks around it. -/
def documentLines (lines : List Line) : List Line :=
  let body :=
    match lines with
    | l :: rest => if isMark ['-', '-', '-'] l then rest else lines
    | [] => []
  body.takeWhile fun l => !isMark ['.', '.', '.'] l

/-- The value of a document; an empty one is nothing. -/
def parse (cs : List Char) : Except Failure Value := do
  let cs := if cs.head? == some (Char.ofNat 0xfeff) then cs.drop 1 else cs
  match documentLines (significantLines cs) with
  | [] => .ok .null
  | line :: rest =>
    match block (2 * cs.length + 4) 0 line rest with
    | some (node, []) => node.valueWithin (cs.length + 1)
    | _ => .error .yaml

end SeedStream.Yaml
