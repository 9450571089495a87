import SeedStream.Yaml.Scalar

/-!
# Nodes of YAML

A document as a tree of scalars, lists and mappings, each with the place where it begins, and the
value that such a tree stands for. The key `<<` takes the fields of another mapping, or of several,
into its own; they come first, so that the mapping's own fields count before them. The scalars of a
list or a mapping are read before what lies further in.
-/

namespace SeedStream.Yaml

/-- A part of a document with the place where it begins. -/
inductive Node
  /-- A scalar without quotes. -/
  | plain (place : Mark) (run : List Char)
  /-- A scalar between quotes. -/
  | text (place : Mark) (t : Text)
  | list (place : Mark) (items : List Node)
  | mapping (place : Mark) (fields : List (Node × Node))

namespace Node

/-- Where a node begins. -/
def place : Node → Mark
  | plain m _ => m
  | text m _ => m
  | list m _ => m
  | mapping m _ => m

/-- What messages call a node. -/
def name : Node → String
  | plain .. => "scalar"
  | text .. => "scalar"
  | list .. => "sequence"
  | mapping .. => "mapping"

/-- The key that takes in another mapping. -/
def mergeKey : List Char := ['<', '<']

/-- The key that is a text as a key and stands for no value elsewhere. -/
def valueKey : List Char := ['=']

/-- The node is a scalar of the given characters without quotes. -/
def isPlain (run : List Char) : Node → Bool
  | plain _ r => r == run
  | _ => false

mutual

/-- The fields that a node gives to the mapping at `whole` that takes it in. -/
def merged (whole : Mark) : Node → Except Failure (List (Node × Node))
  | mapping m fields => do
    let (taken, own) ← flatten m fields
    return taken ++ own
  | list _ items => mergedItems whole items
  | plain m _ => .error (.node (.merge false "scalar" whole m))
  | text m _ => .error (.node (.merge false "scalar" whole m))

/-- The fields that the mappings of a list give, those of the last one first. -/
def mergedItems (whole : Mark) : List Node → Except Failure (List (Node × Node))
  | [] => .ok []
  | mapping m fields :: rest => do
    let (taken, own) ← flatten m fields
    let others ← mergedItems whole rest
    return others ++ (taken ++ own)
  | other :: _ => .error (.node (.merge true other.name whole other.place))

/-- The fields that a mapping takes in, and its own. -/
def flatten (whole : Mark) :
    List (Node × Node) → Except Failure (List (Node × Node) × List (Node × Node))
  | [] => .ok ([], [])
  | (key, value) :: rest =>
    if key.isPlain mergeKey then do
      let first ← merged whole value
      let (taken, own) ← flatten whole rest
      return (first ++ taken, own)
    else do
      let (taken, own) ← flatten whole rest
      return (taken, (key, value) :: own)

end

/-- The value of a scalar. -/
def scalarValue? : Node → Option (Except Failure Value)
  | plain m run =>
    some (if run = mergeKey then .error (.node (.tag "merge" m))
      else if run = valueKey then .error (.node (.tag "value" m))
      else scalar run)
  | text _ t => some (.ok (.text t))
  | _ => none

/-- A scalar stands for a value; other nodes are not looked at. -/
def checkScalar (n : Node) : Except Failure Unit :=
  match n.scalarValue? with
  | some v => v.map fun _ => ()
  | none => .ok ()

/-- The name of a field with a scalar as its key. -/
def fieldName (key : Node) : Except Failure Text :=
  if key.isPlain valueKey then .ok valueKey
  else
    match key.scalarValue? with
    | some v => v.map Value.plain
    | none => .ok []

/-- The value of a node; `fuel` exceeds the number of its levels. -/
def valueWithin : Nat → Node → Except Failure Value
  | 0, _ => .error .yaml
  | fuel + 1, n =>
    match n with
    | list _ items => do
      items.forM checkScalar
      return .list (← items.mapM (valueWithin fuel))
    | mapping m fields => do
      let (taken, own) ← flatten m fields
      let fields := taken ++ own
      fields.forM fun f => do
        let _ ← fieldName f.1
        checkScalar f.2
      let made ← fields.mapM fun f => do return (← fieldName f.1, ← valueWithin fuel f.2)
      return Value.ofFields made
    | leaf => (leaf.scalarValue?).getD (.error .yaml)

end Node

end SeedStream.Yaml
