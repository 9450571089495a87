/-!
# Kinds of values

What an argument, a configuration value or a literal in a file can be. A message about a value of
the wrong kind calls the kind by its name.
-/

namespace SeedStream

/-- What a value is. -/
inductive Kind
  | null
  | bool
  | int
  | real
  | text
  | list
  | object
  | date
  | moment
  | row
  | set
  | bytes
  | complex
  | rest
  deriving DecidableEq, Repr

/-- The name that messages use. -/
def Kind.name : Kind → String
  | .null => "NoneType"
  | .bool => "bool"
  | .int => "int"
  | .real => "float"
  | .text => "str"
  | .list => "list"
  | .object => "dict"
  | .date => "datetime.date"
  | .moment => "datetime.datetime"
  | .row => "tuple"
  | .set => "set"
  | .bytes => "bytes"
  | .complex => "complex"
  | .rest => "ellipsis"

/-- The name without what stands before a point in it. -/
def Kind.shortName : Kind → String
  | .date => "date"
  | .moment => "datetime"
  | k => k.name

/-- Different kinds have different names. -/
theorem Kind.name_inj {a b : Kind} : a.name = b.name ↔ a = b := by
  cases a <;> cases b <;> decide

end SeedStream
