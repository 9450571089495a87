import SeedStream.Double.Shortest
import SeedStream.Kind
import SeedStream.Text.Quoted
import SeedStream.Timestamp

/-!
# Values

A value as a configuration file, a manifest or a caller may give it: nothing, a truth value, an
integer of any size, a double, a text, a list, an object whose fields have an order, or a
timestamp. A value has a plain text and a shown text, which has quotes around texts.
-/

namespace SeedStream

/-- A value of a configuration or of a manifest. -/
inductive Value
  | null
  | bool (b : Bool)
  | int (i : Int)
  | real (x : Float)
  | text (t : Text)
  | list (items : List Value)
  | object (fields : List (Text × Value))
  | timestamp (t : Timestamp)

namespace Value

/-- What the value is. -/
def kind : Value → Kind
  | null => .null
  | bool _ => .bool
  | int _ => .int
  | real _ => .real
  | text _ => .text
  | list _ => .list
  | object _ => .object
  | timestamp t => if t.time.isSome then .moment else .date

/-- A value counts as given unless it is nothing, false, zero or empty. -/
def isGiven : Value → Bool
  | null => false
  | bool b => b
  | int i => i != 0
  | real x => !(x == 0.0)
  | text t => !t.isEmpty
  | list items => !items.isEmpty
  | object fields => !fields.isEmpty
  | timestamp _ => true

mutual

/-- The text that shows a value, with texts between quotes. -/
def shown : Value → List Char
  | null => ['N', 'o', 'n', 'e']
  | bool true => ['T', 'r', 'u', 'e']
  | bool false => ['F', 'a', 'l', 's', 'e']
  | int i => Numeral.signed i
  | real x => Double.text x
  | text t => Text.quoted t
  | list items => '[' :: (shownItems items ++ [']'])
  | object fields => '\x7b' :: (shownFields fields ++ ['\x7d'])
  | timestamp t => t.shown

/-- The items of a list, a comma and a space between them. -/
def shownItems : List Value → List Char
  | [] => []
  | [v] => shown v
  | v :: rest => shown v ++ ',' :: ' ' :: shownItems rest

/-- The fields of an object, a comma and a space between them. -/
def shownFields : List (Text × Value) → List Char
  | [] => []
  | [(k, v)] => Text.quoted k ++ ':' :: ' ' :: shown v
  | (k, v) :: rest => Text.quoted k ++ ':' :: ' ' :: (shown v ++ ',' :: ' ' :: shownFields rest)

end

/-- The shown text of a value, as messages quote it. -/
def display (v : Value) : String :=
  String.ofList v.shown

/-- The plain text of a value: a text is itself, and other values are shown. -/
def plain : Value → Text
  | text t => t
  | timestamp t => t.plain
  | v => v.shown

/-- The list of the texts of strings. -/
def ofStrings (ss : List String) : Value :=
  list (ss.map fun (s : String) => text s)

/-- The field of an object. -/
def field? (name : Text) : List (Text × Value) → Option Value
  | [] => none
  | (k, v) :: rest => if k = name then some v else field? name rest

/-- Set a field: one that is there keeps its place, a new one goes to the end. -/
def setField (name : Text) (v : Value) : List (Text × Value) → List (Text × Value)
  | [] => [(name, v)]
  | (k, w) :: rest => if k = name then (k, v) :: rest else (k, w) :: setField name v rest

/-- The fields of an object in which a later field of a name replaces an earlier one. -/
def ofFields (fields : List (Text × Value)) : Value :=
  object (fields.foldl (fun done f => setField f.1 f.2 done) [])

theorem field?_setField (name : Text) (v : Value) (fields : List (Text × Value)) :
    field? name (setField name v fields) = some v := by
  induction fields with
  | nil => simp [setField, field?]
  | cons f rest ih =>
    by_cases h : f.1 = name <;> simp [setField, field?, h, ih]

theorem field?_setField_of_ne {name other : Text} (h : other ≠ name) (v : Value)
    (fields : List (Text × Value)) : field? other (setField name v fields) = field? other fields := by
  induction fields with
  | nil => simp [setField, field?, Ne.symm h]
  | cons f rest ih =>
    obtain ⟨k, w⟩ := f
    by_cases hk : k = name
    · subst hk; simp [setField, field?, Ne.symm h]
    · by_cases ho : k = other
      · subst ho; simp [setField, field?, hk]
      · simp [setField, field?, hk, ho, ih]

/-- A field of a new name goes to the end. -/
theorem setField_of_not_mem {name : Text} {fields : List (Text × Value)} (fresh : name ∉ fields.map (·.1)) (v : Value) :
    setField name v fields = fields ++ [(name, v)] := by
  induction fields with
  | nil => rfl
  | cons f rest ih =>
    rw [List.map_cons, List.mem_cons, not_or] at fresh
    rw [setField, if_neg (Ne.symm fresh.1), ih fresh.2, List.cons_append]

/-- Fields of different names are those of the object that they make. -/
theorem ofFields_of_nodup {fields : List (Text × Value)} (distinct : (fields.map (·.1)).Nodup) :
    ofFields fields = object fields := by
  have onto (done fields : List (Text × Value)) (distinct : ((done ++ fields).map (·.1)).Nodup) :
      fields.foldl (fun done f => setField f.1 f.2 done) done = done ++ fields := by
    induction fields generalizing done with
    | nil => rw [List.foldl_nil, List.append_nil]
    | cons f rest ih =>
      have fresh : f.1 ∉ done.map (·.1) := by
        intro member
        rw [List.map_append, List.map_cons, List.nodup_append] at distinct
        exact distinct.2.2 _ member _ List.mem_cons_self rfl
      rw [List.append_cons] at distinct ⊢
      rw [List.foldl_cons, setField_of_not_mem fresh, ih _ distinct]
  rw [ofFields, onto [] fields distinct, List.nil_append]

end Value

end SeedStream
