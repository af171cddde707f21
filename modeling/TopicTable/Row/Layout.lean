import TopicTable.Options.Catalogue
import TopicTable.Schema.Table

/-!
# Record layouts

A record carries the physical columns of a table in its key and its value. The layout says which
positions of the physical row each of them has, in order.
-/

namespace TopicTable

/-- Positions of the physical row in the key and in the value of a record. -/
structure RecordLayout where
  key : List Nat
  value : List Nat
deriving DecidableEq, Repr

namespace RecordLayout

def keyFieldsWithoutFormat : TableError :=
  .conflict [Catalogue.keyFields.key, Catalogue.keyFormat.key]
    ("The option 'key.fields' can only be declared if a key format is defined using " ++
      "'key.format'.")

def keyFormatWithoutFields : TableError :=
  .missing [Catalogue.keyFields.key, Catalogue.keyFormat.key]
    ("A key format 'key.format' requires the declaration of one or more of key fields using " ++
      "'key.fields'.")

def repeatedField (field : String) : TableError :=
  .invalidValue Catalogue.keyFields.key
    ("The field '" ++ field ++ "' is declared more than once in 'key.fields'.")

def unknownField (field : String) (names : List String) : TableError :=
  .schemaMismatch ("Could not find the field '" ++ field ++
    "' in the table schema for usage in the key format. A key field must be a regular, physical " ++
    "column. The following columns can be selected in the 'key.fields' option:\n[" ++
    ", ".intercalate names ++ "]")

def unprefixedField (field start : String) : TableError :=
  .invalidValue Catalogue.keyFields.key
    ("All fields in 'key.fields' must be prefixed with '" ++ start ++
      "' when option 'key.fields-prefix' is set but field '" ++ field ++ "' is not prefixed.")

def prefixWithAllFields : TableError :=
  .conflict [Catalogue.keyFieldsPrefix.key, Catalogue.valueFieldsInclude.key]
    ("A key prefix is not allowed when option 'value.fields-include' is set to 'ALL'. " ++
      "Set it to 'EXCEPT_KEY' instead to avoid field overlaps.")

/-- The first name that stands in a list again; `seen` holds the names before. -/
def repeated? (seen : List String) : List String → Option String
  | [] => none
  | f :: rest => if f ∈ seen then some f else repeated? (f :: seen) rest

/-- The position of a key field among the physical columns. -/
def keyPosition (names : List String) (start field : String) : Except TableError Nat :=
  match names.findIdx? (· = field) with
  | none => .error (unknownField field names)
  | some position =>
    if Text.hasPrefix start field then .ok position else .error (unprefixedField field start)

/-- The positions of the key. Key fields and a key format are declared together or not at all. -/
def keyPositions (options : OptionMap) (names : List String) (start : String) :
    Except TableError (List Nat) := do
  let fields? ← options.read? Catalogue.keyFields
  match options.contains Catalogue.keyFormat.key, fields? with
  | false, none => return []
  | false, some _ => .error keyFieldsWithoutFormat
  | true, some (field :: rest) =>
    let fields := field :: rest
    match repeated? [] fields with
    | some f => .error (repeatedField f)
    | none => fields.mapM (keyPosition names start)
  | true, _ => .error keyFormatWithoutFields

/-- The prefix of key fields; an empty one is none. -/
def keyPrefix? (options : OptionMap) : Except TableError (Option String) := do
  let start? ← options.read? Catalogue.keyFieldsPrefix
  return start?.filter (· ≠ "")

def ofOptions (options : OptionMap) (schema : Schema) : Except TableError RecordLayout := do
  let names := schema.physicalNames
  let start := (← options.read? Catalogue.keyFieldsPrefix).getD ""
  let key ← keyPositions options names start
  let choice := (← options.readOrDefault? Catalogue.valueFieldsInclude).getD .all
  match choice with
  | .all =>
    if start ≠ "" then .error prefixWithAllFields else return ⟨key, List.range names.length⟩
  | .exceptKey => return ⟨key, (List.range names.length).filter fun i => !key.contains i⟩

/-- Removes a prefix from the names of fields; a name without it stays. -/
def stripFieldPrefix (start : String) (field : Field) : Field :=
  { field with name := (Text.stripPrefix? start field.name).getD field.name }

/-- The row that the key format sees, its names without the prefix. -/
def keyRow (layout : RecordLayout) (physical : RowType) (start? : Option String) : RowType :=
  let row := physical.project layout.key
  match start? with
  | none => row
  | some start => row.map (stripFieldPrefix start)

/-- The row that the value format sees before its metadata. -/
def valueRow (layout : RecordLayout) (physical : RowType) : RowType :=
  physical.project layout.value

end RecordLayout

end TopicTable
